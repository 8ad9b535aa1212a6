import ParsecCloud.Server.VlobWrites

/- A vlob that the server has accepted stays acceptable for the clients, who judge it from the
   certificates dated before it. A certificate may still come with a date before that of the vlob:
   the revocation of a user looks at the realms that the user is part of, but not at those that it
   has left. The key of index 0 is the only key of a user realm and has no certificate. -/
namespace ParsecCloud.Server
open Certif Rust Runs MemoryOrganization

/-- The last role certificate of the user at the date allows to write. -/
def AllowedAt (roles : Roles) (userId : UserID) (date : DateTime) : Prop :=
  ∃ role ∈ roles, role.1.userId = userId ∧ role.1.timestamp ≤ date ∧
    mayWrite role.1.role = true ∧
    ∀ other ∈ roles, other.1.userId = userId → other.1.timestamp ≤ date →
      other.1.timestamp ≤ role.1.timestamp

/-- The key of the atom has a certificate of before. -/
def KeyedBefore (realm : MemoryRealm) (atom : MemoryVlobAtom) : Prop :=
  ∃ certif ∈ realm.rotations, certif.keyIndex = atom.keyIndex ∧ certif.timestamp < atom.createdOn

/-- What a client checks of the author and of the key of an atom. -/
structure Acceptable (org : MemoryOrganization) (realm : MemoryRealm) (atom : MemoryVlobAtom)
    (device : MemoryDevice) (user : MemoryUser) : Prop where
  isDevice : org.devices.get? atom.author = some device
  isUser : org.users.get? device.cooked.userId = some user
  deviceDated : device.cooked.timestamp < atom.createdOn
  notRevoked : ∀ certif raw, user.revoked = some (certif, raw) → atom.createdOn < certif.timestamp
  allowed : AllowedAt realm.roles device.cooked.userId atom.createdOn
  keyed : atom.keyIndex ≠ 0 → KeyedBefore realm atom

/-- An atom of the realm, in its vlobs or in its updates. -/
def Stored (org : MemoryOrganization) (realm : MemoryRealm) (atom : MemoryVlobAtom) : Prop :=
  atom ∈ realm.updatedAtoms ∨ ∃ vlobId, atom ∈ org.atomsOf realm vlobId

theorem AllowedAt.append {roles : Roles} {userId : UserID} {date : DateTime}
    {certif : RealmRoleCertificate} {raw : List Byte} (allowed : AllowedAt roles userId date)
    (later : date < certif.timestamp) : AllowedAt (roles ++ [(certif, raw)]) userId date := by
  obtain ⟨role, isRole, isUser, isBefore, mayWrite, isLast⟩ := allowed
  refine ⟨role, List.mem_append_left _ isRole, isUser, isBefore, mayWrite, ?_⟩
  intro other member sameUser dated
  rcases List.mem_append.mp member with isOld | isNew
  · exact isLast other isOld sameUser dated
  · rw [List.mem_singleton.mp isNew] at dated
    exact absurd dated (not_le.mpr later)

theorem allowedAt_of_currentRole {roles : Roles} {userId : UserID} {date : DateTime}
    (dated : ∀ role ∈ roles, role.1.timestamp ≤ date)
    (ordered : roles.Pairwise fun a b => a.1.timestamp < b.1.timestamp)
    (allowed : mayWrite (currentRole roles userId) = true) : AllowedAt roles userId date := by
  induction roles using List.reverseRecOn with
  | nil => cases allowed
  | append_singleton rest last ih =>
    obtain ⟨certif, raw⟩ := last
    obtain ⟨restOrdered, -, before⟩ := List.pairwise_append.mp ordered
    rw [currentRole_append] at allowed
    by_cases same : certif.userId = userId
    · rw [if_pos same] at allowed
      refine ⟨_, List.mem_append_right _ (List.mem_singleton_self _), same,
        dated _ (List.mem_append_right _ (List.mem_singleton_self _)), allowed, ?_⟩
      intro other member _ _
      rcases List.mem_append.mp member with isOld | isNew
      · exact (before other isOld _ (List.mem_singleton_self _)).le
      · rw [List.mem_singleton.mp isNew]
    · rw [if_neg same] at allowed
      obtain ⟨role, isRole, isUser, isBefore, mayWrite, isLast⟩ :=
        ih (fun role member => dated role (List.mem_append_left _ member)) restOrdered allowed
      refine ⟨role, List.mem_append_left _ isRole, isUser, isBefore, mayWrite, ?_⟩
      intro other member sameUser isDated
      rcases List.mem_append.mp member with isOld | isNew
      · exact isLast other isOld sameUser isDated
      · rw [List.mem_singleton.mp isNew] at sameUser
        exact absurd sameUser same

/-- The atoms of the realm, and the date of its last vlob. -/
structure AtomsAcceptable (org : MemoryOrganization) (realm : MemoryRealm) : Prop where
  acceptable : ∀ atom ∈ realm.updatedAtoms, ∃ device user, Acceptable org realm atom device user
  dated : ∀ atom ∈ realm.updatedAtoms,
    ∃ last, realm.lastVlobTimestamp = some last ∧ atom.createdOn ≤ last

structure OrganizationAcceptable (org : MemoryOrganization) : Prop where
  keys : KeysKept org
  devices : ∀ deviceId device, org.devices.get? deviceId = some device →
    device.cooked.timestamp ≤ org.lastTimestamp .common
  atoms : ∀ realmId realm, org.realms.get? realmId = some realm → AtomsAcceptable org realm

section Keeping
variable {org org' : MemoryOrganization} {realm realm' : MemoryRealm}

/-- What an operation leaves of the authors. -/
structure SameAuthors (org org' : MemoryOrganization) : Prop where
  devices : ∀ deviceId device, org.devices.get? deviceId = some device →
    org'.devices.get? deviceId = some device
  users : ∀ userId user, org.users.get? userId = some user →
    ∃ user', org'.users.get? userId = some user' ∧ user'.revoked = user.revoked

theorem SameAuthors.of_eq (devices : org'.devices = org.devices) (users : org'.users = org.users) :
    SameAuthors org org' := by
  constructor
  · intro deviceId device isDevice
    rw [devices]
    exact isDevice
  · intro userId user isUser
    rw [users]
    exact ⟨user, isUser, rfl⟩

theorem AtomsAcceptable.keep (atoms : AtomsAcceptable org realm) (authors : SameAuthors org org')
    (updates : realm'.vlobUpdates = realm.vlobUpdates)
    (lastVlob : realm'.lastVlobTimestamp = realm.lastVlobTimestamp)
    (roles : ∀ userId date, (∃ last, realm.lastVlobTimestamp = some last ∧ date ≤ last) →
      AllowedAt realm.roles userId date → AllowedAt realm'.roles userId date)
    (rotations : ∀ certif ∈ realm.rotations, certif ∈ realm'.rotations) :
    AtomsAcceptable org' realm' := by
  have same : realm'.updatedAtoms = realm.updatedAtoms := by
    rw [MemoryRealm.updatedAtoms, updates, MemoryRealm.updatedAtoms]
  constructor
  · intro atom member
    rw [same] at member
    obtain ⟨device, user, ok⟩ := atoms.acceptable atom member
    obtain ⟨user', isUser', revoked⟩ := authors.users _ user ok.isUser
    refine ⟨device, user', authors.devices _ _ ok.isDevice, isUser', ok.deviceDated, ?_, ?_, ?_⟩
    · rw [revoked]
      exact ok.notRevoked
    · exact roles _ _ (atoms.dated atom member) ok.allowed
    · intro hasKey
      obtain ⟨certif, isRotation, isKey⟩ := ok.keyed hasKey
      exact ⟨certif, rotations certif isRotation, isKey⟩
  · intro atom member
    rw [same] at member
    rw [lastVlob]
    exact atoms.dated atom member

theorem AtomsAcceptable.authors (atoms : AtomsAcceptable org realm)
    (authors : SameAuthors org org') : AtomsAcceptable org' realm :=
  atoms.keep authors rfl rfl (fun _ _ _ allowed => allowed) fun _ member => member

theorem AtomsAcceptable.role {certif : RealmRoleCertificate} {raw : List Byte}
    (atoms : AtomsAcceptable org realm) (authors : SameAuthors org org')
    (updates : realm'.vlobUpdates = realm.vlobUpdates)
    (lastVlob : realm'.lastVlobTimestamp = realm.lastVlobTimestamp)
    (roles : realm'.roles = realm.roles ++ [(certif, raw)])
    (rotations : realm'.rotations = realm.rotations)
    (later : org.lastTimestampForRole certif.realmId realm < certif.timestamp) :
    AtomsAcceptable org' realm' := by
  refine atoms.keep authors updates lastVlob ?_ ?_
  · rintro userId date ⟨last, isLast, dated⟩ allowed
    rw [roles]
    apply allowed.append
    rw [lastTimestampForRole, isLast] at later
    exact lt_of_le_of_lt (dated.trans (le_max_right _ _)) later
  · rw [rotations]
    exact fun _ member => member

end Keeping

section Operations
variable {org org' : MemoryOrganization}

/-- The certificate of a revoked user comes after what the user has written in the realms that it has
    left. -/
def AfterLeftRealms (org : MemoryOrganization) (kind : OperationKind) : Prop :=
  ∀ certif, kind = .revokeUser (some certif) → ∀ realmId realm,
    org.realms.get? realmId = some realm → realm.getCurrentRoleFor certif.userId = none →
      ∀ atom ∈ realm.updatedAtoms, ∀ device, org.devices.get? atom.author = some device →
        device.cooked.userId = certif.userId → atom.createdOn < certif.timestamp

theorem AtomsAcceptable.revocation {realmId : VlobID} {realm : MemoryRealm}
    {certif : RevokedUserCertificate} {target : MemoryUser} {raw : List Byte}
    (atoms : AtomsAcceptable org realm) (isRealm : org.realms.get? realmId = some realm)
    (after : AfterLeftRealms org (.revokeUser (some certif)))
    (later : org.lastTimestampForRevocation certif.userId < certif.timestamp) :
    AtomsAcceptable (org.withRevocation target certif raw) realm := by
  refine ⟨?_, atoms.dated⟩
  intro atom member
  obtain ⟨device, user, ok⟩ := atoms.acceptable atom member
  by_cases same : device.cooked.userId = certif.userId
  · have isUser : (org.withRevocation target certif raw).users.get? device.cooked.userId =
        some { target with revoked := some (certif, raw) } := by
      rw [same]
      exact Dict.get?_set_self _ _ _
    refine ⟨device, _, ok.isDevice, isUser, ok.deviceDated, ?_, ok.allowed, ok.keyed⟩
    intro revoked revokedRaw isRevoked
    cases isRevoked
    by_cases left : realm.getCurrentRoleFor certif.userId = none
    · exact after certif rfl realmId realm isRealm left atom member device ok.isDevice same
    · obtain ⟨last, isLast, dated⟩ := atoms.dated atom member
      exact lt_of_le_of_lt (dated.trans (lastVlob_le_forRevocation isRealm left isLast)) later
  · exact ⟨device, user, ok.isDevice, (Dict.get?_set_of_ne same).trans ok.isUser, ok.deviceDated,
      ok.notRevoked, ok.allowed, ok.keyed⟩

theorem devicesDated_of_same {topic : TopicAndDiscriminant} {timestamp : DateTime}
    (dated : ∀ deviceId device, org.devices.get? deviceId = some device →
      device.cooked.timestamp ≤ org.lastTimestamp .common)
    (updated : org'.perTopicLastTimestamp =
      Function.update org.perTopicLastTimestamp topic (some timestamp))
    (later : topic = .common → org.lastTimestamp .common ≤ timestamp)
    (devices : ∀ deviceId device, org'.devices.get? deviceId = some device →
      org.devices.get? deviceId = some device ∨
        topic = .common ∧ device.cooked.timestamp = timestamp)
    (deviceId : DeviceID) (device : MemoryDevice)
    (isDevice : org'.devices.get? deviceId = some device) :
    device.cooked.timestamp ≤ org'.lastTimestamp .common := by
  rw [lastTimestamp_update updated]
  split
  · rename_i same
    rcases devices deviceId device isDevice with isOld | ⟨-, isNew⟩
    · exact (dated deviceId device isOld).trans (later same.symm)
    · exact isNew.le
  · rename_i different
    rcases devices deviceId device isDevice with isOld | ⟨isCommon, -⟩
    · exact dated deviceId device isOld
    · exact absurd isCommon.symm different

theorem atoms_of_set {realmId : VlobID} {realm : MemoryRealm}
    (atoms : ∀ realmId realm, org.realms.get? realmId = some realm → AtomsAcceptable org' realm)
    (realms : org'.realms = org.realms.set realmId realm) (new : AtomsAcceptable org' realm)
    (other : VlobID) (found : MemoryRealm) (isFound : org'.realms.get? other = some found) :
    AtomsAcceptable org' found := by
  rcases Dict.found_set realms isFound with ⟨-, rfl⟩ | ⟨-, isFound⟩
  · exact new
  · exact atoms other found isFound

theorem sameAuthors_of_set {userId : UserID} {user : MemoryUser}
    (users : org'.users = org.users.set userId user)
    (revoked : ∀ old, org.users.get? userId = some old → user.revoked = old.revoked)
    (devices : ∀ deviceId device, org.devices.get? deviceId = some device →
      org'.devices.get? deviceId = some device) : SameAuthors org org' := by
  refine ⟨devices, ?_⟩
  intro other found isFound
  rw [users, Dict.get?_set]
  split
  · rename_i same
    rw [same] at isFound
    exact ⟨user, rfl, revoked found isFound⟩
  · exact ⟨found, isFound, rfl⟩

theorem devices_set_cases {deviceId other : DeviceID} {device found : MemoryDevice}
    (isFound : (org.devices.set deviceId device).get? other = some found) :
    org.devices.get? other = some found ∨ found = device := by
  rcases Dict.found_set rfl isFound with ⟨-, rfl⟩ | ⟨-, isFound⟩
  · exact Or.inr rfl
  · exact Or.inl isFound

theorem OrganizationAcceptable.operation {kind : OperationKind} {topic : TopicAndDiscriminant}
    (ok : OrganizationAcceptable org) (effect : Effect org kind topic org')
    (after : AfterLeftRealms org kind) : OrganizationAcceptable org' := by
  have keys := ok.keys.operation effect
  have sameAtoms : SameAuthors org org' → ∀ realmId realm, org.realms.get? realmId = some realm →
      AtomsAcceptable org' realm :=
    fun authors realmId realm isRealm => (ok.atoms realmId realm isRealm).authors authors
  -- a certificate of another topic than the common one
  have sameDevices : ∀ {topic timestamp}, topic ≠ .common → org'.devices = org.devices →
      org'.perTopicLastTimestamp = Function.update org.perTopicLastTimestamp topic (some timestamp) →
      ∀ deviceId device, org'.devices.get? deviceId = some device →
        device.cooked.timestamp ≤ org'.lastTimestamp .common := by
    intro topic timestamp notCommon devices updated
    refine devicesDated_of_same ok.devices updated (fun isCommon => absurd isCommon notCommon) ?_
    intro deviceId device isDevice
    rw [devices] at isDevice
    exact Or.inl isDevice
  cases effect with
  | @user u d authorId authorUser author raw redacted deviceRaw deviceRedacted hasAuthor admin
      userAuthor deviceAuthor sameUser sameTime newUser newDevice later =>
    refine ⟨keys, devicesDated_of_same ok.devices rfl (fun _ => later.le) ?_, sameAtoms ?_⟩
    · intro deviceId device isDevice
      rcases devices_set_cases isDevice with isOld | rfl
      · exact Or.inl isOld
      · exact Or.inr ⟨rfl, sameTime⟩
    · refine sameAuthors_of_set rfl ?_ fun _ _ => Dict.kept_set newDevice
      intro old isOld
      rw [newUser] at isOld
      cases isOld
  | device raw redacted hasAuthor deviceAuthor newDevice later =>
    refine ⟨keys, devicesDated_of_same ok.devices rfl (fun _ => later.le) ?_, sameAtoms ?_⟩
    · intro deviceId device isDevice
      rcases devices_set_cases isDevice with isOld | rfl
      · exact Or.inl isOld
      · exact Or.inr ⟨rfl, rfl⟩
    · exact ⟨fun _ _ => Dict.kept_set newDevice, fun _ user isUser => ⟨user, isUser, rfl⟩⟩
  | revocation raw hasAuthor admin other isTarget active later =>
    refine ⟨keys, devicesDated_of_same ok.devices rfl (fun _ => ?_) ?_, ?_⟩
    · exact common_le_forRevocation.trans later.le
    · exact fun _ _ isDevice => Or.inl isDevice
    · intro realmId realm isRealm
      exact (ok.atoms realmId realm isRealm).revocation isRealm after later
  | update raw hasAuthor admin other isTarget active changes later =>
    refine ⟨keys, devicesDated_of_same ok.devices rfl (fun _ => later.le) ?_, sameAtoms ?_⟩
    · exact fun _ _ isDevice => Or.inl isDevice
    · refine sameAuthors_of_set rfl ?_ fun _ _ isDevice => isDevice
      intro old isOld
      rw [isTarget] at isOld
      cases isOld
      rfl
  | newRealm =>
    refine ⟨keys, sameDevices (by simp) rfl rfl, atoms_of_set (sameAtoms (.of_eq rfl rfl)) rfl ?_⟩
    constructor
    · intro atom member
      cases member
    · intro atom member
      cases member
  | share raw access hasAuthor other role isUser active isRealm allowed outsider changes later last =>
    refine ⟨keys, sameDevices (by simp) rfl rfl, atoms_of_set (sameAtoms (.of_eq rfl rfl)) rfl ?_⟩
    refine (ok.atoms _ _ isRealm).role (.of_eq rfl rfl) rfl rfl rfl ?_ later
    obtain ⟨front, split⟩ := List.getLast?_eq_some_iff.mp last
    rw [MemoryRealm.rotations, MemoryRealm.rotations, split, List.dropLast_concat, List.map_append,
      List.map_append]
    rfl
  | unshare raw hasAuthor other noRole isUser isRealm allowed changes later =>
    refine ⟨keys, sameDevices (by simp) rfl rfl, atoms_of_set (sameAtoms (.of_eq rfl rfl)) rfl ?_⟩
    exact (ok.atoms _ _ isRealm).role (.of_eq rfl rfl) rfl rfl rfl rfl later
  | rename raw hasAuthor isRealm =>
    refine ⟨keys, sameDevices (by simp) rfl rfl, atoms_of_set (sameAtoms (.of_eq rfl rfl)) rfl ?_⟩
    exact (ok.atoms _ _ isRealm).keep (.of_eq rfl rfl) rfl rfl (fun _ _ _ allowed => allowed)
      fun _ member => member
  | setup => exact ⟨keys, sameDevices (by simp) rfl rfl, sameAtoms (.of_eq rfl rfl)⟩
  | deletion => exact ⟨keys, sameDevices (by simp) rfl rfl, sameAtoms (.of_eq rfl rfl)⟩
  | service => exact ⟨keys, sameDevices (by simp) rfl rfl, sameAtoms (.of_eq rfl rfl)⟩
  | revokedService => exact ⟨keys, sameDevices (by simp) rfl rfl, sameAtoms (.of_eq rfl rfl)⟩

end Operations

section Writes
variable {org org' : MemoryOrganization} {write : VlobWrite} {userId : UserID} {user : MemoryUser}
  {realm : MemoryRealm}

theorem WriteValid.acceptable (valid : WriteValid org write userId user realm)
    (ok : OrganizationAcceptable org) :
    ∃ device, Acceptable org realm write.atom device user := by
  obtain ⟨-, device, isDevice, rfl, isUser, active⟩ := valid.hasAuthor
  have keys := ok.keys _ realm valid.isRealm
  have afterCommon := lt_of_le_of_lt (le_max_left _ _) valid.later
  have afterRealm := lt_of_le_of_lt (le_max_right _ _) valid.later
  refine ⟨device, isDevice, isUser, ?_, ?_, ?_, ?_⟩
  · exact lt_of_le_of_lt (ok.devices _ device isDevice) afterCommon
  · intro certif raw isRevoked
    rw [active] at isRevoked
    cases isRevoked
  · refine allowedAt_of_currentRole ?_ keys.rolesOrdered valid.role
    intro role member
    exact (keys.rolesDated role member).trans afterRealm.le
  · intro hasKey
    change write.keyIndex ≠ 0 at hasKey
    have length : realm.rotations.length = write.keyIndex := by
      rw [MemoryRealm.rotations, List.length_map, valid.index]
    have inside : write.keyIndex - 1 < realm.rotations.length := by omega
    have found := List.getElem?_eq_getElem inside
    refine ⟨_, List.getElem_mem inside, ?_, ?_⟩
    · rw [keys.indexes _ _ found]
      change write.keyIndex - 1 + 1 = write.keyIndex
      omega
    · exact lt_of_le_of_lt (keys.rotationsDated _ (List.getElem_mem inside)) afterRealm

theorem AtomsAcceptable.record {realm' : MemoryRealm} (atoms : AtomsAcceptable org realm)
    (valid : WriteValid org write userId user realm) (ok : OrganizationAcceptable org)
    (authors : SameAuthors org org')
    (updates : realm'.vlobUpdates =
      realm.vlobUpdates ++ [⟨realm.vlobUpdates.length + 1, write.atom⟩])
    (lastVlob : realm'.lastVlobTimestamp = bumpVlobTimestamp realm write.timestamp)
    (roles : realm'.roles = realm.roles) (rotations : realm'.keyRotations = realm.keyRotations) :
    AtomsAcceptable org' realm' := by
  have updated : realm'.updatedAtoms = realm.updatedAtoms ++ [write.atom] := by
    rw [MemoryRealm.updatedAtoms, updates, List.map_append]
    rfl
  constructor
  · intro atom member
    have found : ∃ device user, Acceptable org realm atom device user := by
      rw [updated] at member
      rcases List.mem_append.mp member with isOld | isNew
      · exact atoms.acceptable atom isOld
      · rw [List.mem_singleton.mp isNew]
        obtain ⟨device, isAcceptable⟩ := valid.acceptable ok
        exact ⟨device, user, isAcceptable⟩
    obtain ⟨device, author, acceptable⟩ := found
    obtain ⟨author', isAuthor', revoked⟩ := authors.users _ author acceptable.isUser
    refine ⟨device, author', authors.devices _ _ acceptable.isDevice, isAuthor',
      acceptable.deviceDated, ?_, ?_, ?_⟩
    · rw [revoked]
      exact acceptable.notRevoked
    · rw [roles]
      exact acceptable.allowed
    · rw [KeyedBefore, MemoryRealm.rotations, rotations]
      exact acceptable.keyed
  · intro atom member
    rw [lastVlob, bumpVlobTimestamp]
    rw [updated] at member
    rcases List.mem_append.mp member with isOld | isNew
    · obtain ⟨last, isLast, dated⟩ := atoms.dated atom isOld
      rw [isLast]
      exact ⟨_, rfl, dated.trans (le_max_left _ _)⟩
    · rw [List.mem_singleton.mp isNew]
      cases realm.lastVlobTimestamp with
      | none => exact ⟨_, rfl, le_refl _⟩
      | some last => exact ⟨_, rfl, le_max_right _ _⟩

theorem OrganizationAcceptable.store {call : Waiting} (ok : OrganizationAcceptable org)
    (valid : call.Valid org)
    (effect : StoreEffect org call org') : OrganizationAcceptable org' := by
  have keys := ok.keys.store valid effect
  have sameAtoms : SameAuthors org org' → ∀ realmId realm, org.realms.get? realmId = some realm →
      AtomsAcceptable org' realm :=
    fun authors realmId realm isRealm => (ok.atoms realmId realm isRealm).authors authors
  cases effect with
  | @createVlob write realm isRealm =>
    obtain ⟨-, userId, user, found, isValid⟩ := valid
    have same : found = realm := Option.some.inj (isValid.isRealm.symm.trans isRealm)
    subst same
    refine ⟨keys, ok.devices, atoms_of_set (sameAtoms (.of_eq rfl rfl)) rfl ?_⟩
    exact (ok.atoms _ found isRealm).record isValid ok (.of_eq rfl rfl) rfl rfl rfl rfl
  | @updateVlob write place realm isRealm =>
    obtain ⟨userId, user, found, isValid⟩ := valid
    have same : found = realm := Option.some.inj (isValid.isRealm.symm.trans isRealm)
    subst same
    refine ⟨keys, ok.devices, atoms_of_set (sameAtoms (.of_eq rfl rfl)) rfl ?_⟩
    exact (ok.atoms _ found isRealm).record isValid ok (.of_eq rfl rfl) rfl rfl rfl rfl
  | @rotateKey rotation realm isRealm =>
    have common : (org.withRotation realm rotation).lastTimestamp .common =
        org.lastTimestamp .common := by
      rw [@lastTimestamp_update org (org.withRotation realm rotation)
        (.realm rotation.certif.realmId) rotation.certif.timestamp rfl, if_neg (by simp)]
    refine ⟨keys, ?_, atoms_of_set (sameAtoms (.of_eq rfl rfl)) rfl ?_⟩
    · rw [common]
      exact ok.devices
    · refine (ok.atoms _ realm isRealm).keep (.of_eq rfl rfl) rfl rfl
        (fun _ _ _ allowed => allowed) ?_
      intro certif member
      rw [MemoryRealm.rotations, List.map_append]
      exact List.mem_append_left _ member

end Writes

/-- The atoms of the vlobs of a realm are among its updates, and the lists that the updates that wait
    have seen are those of their realm. -/
structure AtomsOwned (org : MemoryOrganization) (waiting : List Waiting) : Prop where
  inside : ∀ {realmId vlobId place}, IsAt org realmId vlobId place → place < org.atomLists.length
  sameRealm : ∀ {realmId vlobId realmId' vlobId' place}, IsAt org realmId vlobId place →
    IsAt org realmId' vlobId' place → realmId = realmId'
  recorded : ∀ {realmId realm vlobId atom}, org.realms.get? realmId = some realm →
    atom ∈ org.atomsOf realm vlobId → atom ∈ realm.updatedAtoms
  waiting : ∀ write place, .updateVlob write place ∈ waiting → place < org.atomLists.length ∧
    ∀ {realmId vlobId}, IsAt org realmId vlobId place → realmId = write.realmId

namespace AtomsOwned
variable {org org' : MemoryOrganization} {waiting waiting' : List Waiting} {write : VlobWrite}
  {realm : MemoryRealm} {place : Nat}

theorem same (owned : AtomsOwned org waiting) (same : SameVlobs org org') :
    AtomsOwned org' waiting := by
  constructor
  · intro realmId vlobId place isAt
    rw [same.lists]
    exact owned.inside (same.isAt.mp isAt)
  · intro realmId vlobId realmId' vlobId' place isAt isAt'
    exact owned.sameRealm (same.isAt.mp isAt) (same.isAt.mp isAt')
  · intro realmId realm' vlobId atom isRealm' member
    rcases same.origin realmId realm' isRealm' with
      ⟨realm, isRealm, vlobs, updates⟩ | ⟨-, empty, -⟩
    · rw [atomsOf, vlobs, same.lists] at member
      rw [MemoryRealm.updatedAtoms, updates]
      exact owned.recorded isRealm member
    · rw [atomsOf_none (by rw [empty]; rfl)] at member
      cases member
  · intro write place member
    rw [same.lists]
    obtain ⟨inside, isRealm⟩ := owned.waiting write place member
    exact ⟨inside, fun isAt => isRealm (same.isAt.mp isAt)⟩

theorem waits (owned : AtomsOwned org waiting)
    (updates : ∀ write place, .updateVlob write place ∈ waiting' →
      .updateVlob write place ∈ waiting ∨ IsAt org write.realmId write.vlobId place) :
    AtomsOwned org waiting' := by
  refine ⟨owned.inside, owned.sameRealm, owned.recorded, ?_⟩
  intro write place member
  rcases updates write place member with isOld | isAt
  · exact owned.waiting write place isOld
  · exact ⟨owned.inside isAt, fun isOther => owned.sameRealm isOther isAt⟩

theorem create (owned : AtomsOwned org waiting)
    (isRealm : org.realms.get? write.realmId = some realm) :
    AtomsOwned (org.withNewVlob realm write) waiting := by
  have longer : (org.withNewVlob realm write).atomLists.length = org.atomLists.length + 1 :=
    List.length_append
  constructor
  · intro realmId vlobId place isAt
    rw [longer]
    rcases isAt_create isRealm isAt with isOld | ⟨-, -, isNew⟩
    · have bound := owned.inside isOld
      omega
    · omega
  · intro realmId vlobId realmId' vlobId' place isAt isAt'
    rcases isAt_create isRealm isAt with isOld | ⟨isHere, -, isNew⟩
    · have bound := owned.inside isOld
      rcases isAt_create isRealm isAt' with isOld' | ⟨-, -, isNew'⟩
      · exact owned.sameRealm isOld isOld'
      · omega
    · rcases isAt_create isRealm isAt' with isOld' | ⟨isHere', -, -⟩
      · have bound := owned.inside isOld'
        omega
      · exact isHere.trans isHere'.symm
  · intro realmId found vlobId atom isFound member
    change (org.realms.set _ _).get? realmId = some found at isFound
    rcases Dict.found_set rfl isFound with ⟨-, rfl⟩ | ⟨-, isFound⟩
    · have updated : MemoryRealm.updatedAtoms { recordWrite realm write with
          vlobs := realm.vlobs.set write.vlobId org.atomLists.length } =
          realm.updatedAtoms ++ [write.atom] := List.map_append
      change atom ∈ MemoryRealm.updatedAtoms { recordWrite realm write with
        vlobs := realm.vlobs.set write.vlobId org.atomLists.length }
      rw [updated]
      by_cases same : vlobId = write.vlobId
      · rw [same, atomsOf_created _ (Dict.get?_set_self _ _ _)] at member
        exact List.mem_append_right _ member
      · rw [atomsOf_create owned.inside isRealm (Dict.get?_set_of_ne same)] at member
        exact List.mem_append_left _ (owned.recorded isRealm member)
    · rw [atomsOf_create owned.inside isFound rfl] at member
      exact owned.recorded isFound member
  · intro other place member
    obtain ⟨inside, ofRealm⟩ := owned.waiting other place member
    refine ⟨by omega, ?_⟩
    intro realmId vlobId isAt
    rcases isAt_create isRealm isAt with isOld | ⟨-, -, isNew⟩
    · exact ofRealm isOld
    · omega

theorem update (owned : AtomsOwned org waiting)
    (isRealm : org.realms.get? write.realmId = some realm)
    (inside : place < org.atomLists.length)
    (ofRealm : ∀ {realmId vlobId}, IsAt org realmId vlobId place → realmId = write.realmId) :
    AtomsOwned (org.withAtom realm write place) waiting := by
  have length : (org.withAtom realm write place).atomLists.length = org.atomLists.length :=
    List.length_set
  constructor
  · intro realmId vlobId found isAt
    rw [length]
    exact owned.inside (isAt_update isRealm isAt)
  · intro realmId vlobId realmId' vlobId' found isAt isAt'
    exact owned.sameRealm (isAt_update isRealm isAt) (isAt_update isRealm isAt')
  · intro realmId found vlobId atom isFound member
    have updated : (recordWrite realm write).updatedAtoms = realm.updatedAtoms ++ [write.atom] :=
      List.map_append
    change (org.realms.set _ (recordWrite realm write)).get? realmId = some found at isFound
    rcases Dict.found_set rfl isFound with ⟨-, rfl⟩ | ⟨different, isFound⟩
    · rw [updated]
      change atom ∈ (org.withAtom realm write place).atomsOf realm vlobId at member
      by_cases here : realm.vlobs.get? vlobId = some place
      · rw [atomsOf_updated inside here] at member
        rcases List.mem_append.mp member with isOld | isNew
        · exact List.mem_append_left _ (owned.recorded isRealm isOld)
        · exact List.mem_append_right _ isNew
      · rw [atomsOf_update here] at member
        exact List.mem_append_left _ (owned.recorded isRealm member)
    · rw [atomsOf_update] at member
      · exact owned.recorded isFound member
      · intro here
        exact different (ofRealm ⟨found, isFound, here⟩)
  · intro other found member
    rw [length]
    obtain ⟨isInside, isOwn⟩ := owned.waiting other found member
    exact ⟨isInside, fun isAt => isOwn (isAt_update isRealm isAt)⟩

theorem store {call : Waiting} (owned : AtomsOwned org waiting) (effect : StoreEffect org call org')
    (update : ∀ write place, call = .updateVlob write place → place < org.atomLists.length ∧
      ∀ {realmId vlobId}, IsAt org realmId vlobId place → realmId = write.realmId) :
    AtomsOwned org' waiting := by
  cases effect with
  | createVlob isRealm => exact owned.create isRealm
  | @updateVlob write place realm isRealm version =>
    obtain ⟨inside, ofRealm⟩ := update write place rfl
    exact owned.update isRealm inside ofRealm
  | rotateKey isRealm => exact owned.same (.of_set isRealm rfl rfl rfl rfl)

end AtomsOwned

def WritesBefore (s : State) : Event → Prop
  | .operation op => AfterLeftRealms s.org op.kind
  | _ => True

structure StateAcceptable (s : State) : Prop where
  valid : StateValid s
  acceptable : OrganizationAcceptable s.org
  owned : AtomsOwned s.org s.waiting

theorem StateAcceptable.step {s s' : State} {event : Event} (ok : StateAcceptable s)
    (admitted : WritesBefore s event) (step : Step s event s') : StateAcceptable s' := by
  have valid := ok.valid.step step
  obtain ⟨isValid, acceptable, owned⟩ := ok
  cases step with
  | operation free isOk =>
    obtain ⟨topic, -, effect⟩ := Operation.effect isOk
    exact ⟨valid, acceptable.operation effect admitted, owned.same effect.sameVlobs⟩
  | waits checked free webhooks =>
    refine ⟨valid, acceptable, owned.waits ?_⟩
    intro write place member
    rcases List.mem_append.mp member with isOld | isNew
    · exact Or.inl isOld
    · rw [← List.mem_singleton.mp isNew] at checked
      exact Or.inr checked.isAt
  | atOnce checked free noWebhook isOk =>
    have effect := Waiting.store_effect isOk
    refine ⟨valid, acceptable.store checked.valid effect, owned.store effect ?_⟩
    rintro write place rfl
    exact ⟨owned.inside checked.isAt, fun isAt => owned.sameRealm isAt checked.isAt⟩
  | @accepted org org' before after succeeded call isOk =>
    have effect := Waiting.store_effect isOk
    have isMember : call ∈ before ++ call :: after := by simp
    have fewer : ∀ other ∈ before ++ after, other ∈ before ++ call :: after := fun _ member =>
      ((List.sublist_cons_self call after).append_left before).subset member
    refine ⟨valid, acceptable.store (isValid.valid call isMember) effect,
      (owned.store effect ?_).waits ?_⟩
    · rintro write place rfl
      exact owned.waiting write place isMember
    · exact fun write place member => Or.inl (fewer _ member)
  | @rejected org before after succeeded call =>
    have fewer : ∀ other ∈ before ++ after, other ∈ before ++ call :: after := fun _ member =>
      ((List.sublist_cons_self call after).append_left before).subset member
    exact ⟨valid, acceptable, owned.waits fun write place member => Or.inl (fewer _ member)⟩

/-- An organization without realms, whose devices are dated by the common topic. -/
structure Bootstrapped (s : State) : Prop where
  noRealm : s.org.realms = .empty
  noList : s.org.atomLists = []
  noCall : s.waiting = []
  devices : ∀ deviceId device, s.org.devices.get? deviceId = some device →
    device.cooked.timestamp ≤ s.org.lastTimestamp .common

theorem Bootstrapped.acceptable {s : State} (start : Bootstrapped s) : StateAcceptable s := by
  have nothing : ∀ {realmId realm}, s.org.realms.get? realmId ≠ some realm := by
    intro realmId realm isRealm
    rw [start.noRealm] at isRealm
    cases isRealm
  have nowhere : ∀ {realmId vlobId place}, ¬ IsAt s.org realmId vlobId place := by
    rintro realmId vlobId place ⟨realm, isRealm, -⟩
    exact nothing isRealm
  refine ⟨?_, ?_, ?_⟩
  · constructor
    · simp [start.noCall]
    · simp [start.noCall]
  · exact ⟨fun _ _ isRealm => absurd isRealm nothing, start.devices,
      fun _ _ isRealm => absurd isRealm nothing⟩
  · constructor
    · intro realmId vlobId place isAt
      exact absurd isAt nowhere
    · intro realmId vlobId realmId' vlobId' place isAt
      exact absurd isAt nowhere
    · intro realmId realm vlobId atom isRealm
      exact absurd isRealm nothing
    · simp [start.noCall]

/-- What the server has accepted stays acceptable, as long as nobody is revoked with a date before
    its writes in a realm it has left. -/
theorem stored_atoms_acceptable (start : State) (bootstrapped : Bootstrapped start) (s : State)
    (run : Run Step WritesBefore start s) (realmId : VlobID) (realm : MemoryRealm)
    (isRealm : s.org.realms.get? realmId = some realm) (atom : MemoryVlobAtom)
    (stored : Stored s.org realm atom) :
    ∃ device user, Acceptable s.org realm atom device user := by
  have ok : StateAcceptable s := by
    apply run.keeps bootstrapped.acceptable
    intro s event s' ok admitted step
    exact ok.step admitted step
  apply (ok.acceptable.atoms realmId realm isRealm).acceptable
  rcases stored with isUpdate | ⟨vlobId, isAtom⟩
  · exact isUpdate
  · exact ok.owned.recorded isRealm isAtom

theorem bootstrapped_teamOrganization : Bootstrapped ⟨teamOrganization, [], []⟩ := by
  refine ⟨rfl, rfl, rfl, ?_⟩
  intro deviceId device isDevice
  change ((Dict.empty.set _ _).set _ _).get? deviceId = some device at isDevice
  rcases Dict.found_set rfl isDevice with ⟨-, rfl⟩ | ⟨-, isFirst⟩
  · decide
  · rcases Dict.found_set rfl isFirst with ⟨-, rfl⟩ | ⟨-, isNone⟩
    · decide
    · cases isNone

/-- The second member of the realm writes a vlob. -/
def memberWrite : VlobWrite := ⟨⟨12⟩, ⟨5⟩, ⟨8⟩, 1, 1, 100, [1]⟩

theorem member_write_acceptable :
    ∃ s realm, Run Step WritesBefore ⟨teamOrganization, [], []⟩ s ∧
      s.org.realms.get? ⟨5⟩ = some realm ∧
      ∃ device user, Acceptable s.org realm memberWrite.atom device user := by
  obtain ⟨s, run, rfl⟩ := @shared_run WritesBefore
    (fun _ _ other certif isRevocation => absurd isRevocation (other _))
    (fun _ _ _ => trivial)
  have written := run.step (t := .request (.createVlob 100 memberWrite) (.createVlob memberWrite))
    (by trivial) (.atOnce (.createVlob rfl rfl) (by simp [CanLock]) rfl rfl)
  refine ⟨_, _, written, rfl, ?_⟩
  exact stored_atoms_acceptable _ bootstrapped_teamOrganization _ written ⟨5⟩ _ rfl _
    (Or.inl (by decide))

/-- All the stored atoms have an acceptable author and a certified key. -/
def AllAcceptable (org : MemoryOrganization) : Prop :=
  ∀ realmId realm, org.realms.get? realmId = some realm → ∀ atom, Stored org realm atom →
    ∃ device user, Acceptable org realm atom device user ∧ KeyedBefore realm atom

/-- A vlob is written with a key. -/
def WritesKeyed (_ : State) : Event → Prop
  | .request _ call => ∀ write ∈ call.written, write.keyIndex ≠ 0
  | _ => True

/-- The owner of a new realm writes a vlob with the key of index 0. -/
def unkeyedWrite : VlobWrite := ⟨⟨11⟩, ⟨5⟩, ⟨8⟩, 0, 1, 100, [1]⟩

theorem unkeyed_write_accepted :
    ¬ ∀ start, Bootstrapped start → ∀ s, Run Step WritesBefore start s → AllAcceptable s.org := by
  intro always
  have created : Run Step WritesBefore ⟨teamOrganization, [], []⟩ _ :=
    .step .start (t := .operation (.createRealm 2 ⟨11⟩ ⟨21⟩
      ⟨[], .certificate teamRealmRole ⟨21⟩⟩)) nofun (.operation (by simp) rfl)
  have written := created.step (t := .request (.createVlob 100 unkeyedWrite)
    (.createVlob unkeyedWrite)) (by trivial)
    (.atOnce (.createVlob rfl rfl) (by simp [CanLock]) rfl rfl)
  obtain ⟨device, user, -, certif, isRotation, -⟩ := always _ bootstrapped_teamOrganization _
    written ⟨5⟩ _ rfl unkeyedWrite.atom (Or.inl (by decide))
  cases isRotation

/-- The second member leaves the realm and is revoked with a date before that of its vlob. -/
theorem revoked_before_its_write :
    ¬ ∀ start, Bootstrapped start → ∀ s, Run Step WritesKeyed start s → AllAcceptable s.org := by
  intro always
  obtain ⟨s, run, rfl⟩ := @shared_run WritesKeyed (fun _ _ _ => trivial)
    (fun _ _ _ write member => by cases member)
  have written := run.step (t := .request (.createVlob 100 memberWrite) (.createVlob memberWrite))
    (by intro write member; rw [List.mem_singleton.mp member]; decide)
    (.atOnce (.createVlob rfl rfl) (by simp [CanLock]) rfl rfl)
  have left := written.step (t := .operation (.unshareRealm 101 ⟨11⟩ ⟨21⟩
    ⟨[], .certificate ⟨⟨11⟩, 101, ⟨5⟩, ⟨2⟩, none⟩ ⟨21⟩⟩)) (by trivial) (.operation (by simp) rfl)
  have revoked := left.step (t := .operation (.revokeUser 101 ⟨11⟩ ⟨21⟩
    ⟨[], .certificate ⟨⟨11⟩, 50, ⟨2⟩⟩ ⟨21⟩⟩)) (by trivial) (.operation (by simp) rfl)
  obtain ⟨device, user, acceptable, -⟩ := always _ bootstrapped_teamOrganization _ revoked ⟨5⟩ _ rfl
    memberWrite.atom (Or.inl (by decide))
  have isDevice := acceptable.isDevice
  cases isDevice
  have isUser := acceptable.isUser
  cases isUser
  exact absurd (acceptable.notRevoked _ _ rfl) (by decide)

/-- Each of the two is enough to make a stored atom unacceptable. -/
theorem stored_atoms_not_all_acceptable :
    (¬ ∀ start, Bootstrapped start → ∀ s, Run Step WritesBefore start s → AllAcceptable s.org) ∧
      ¬ ∀ start, Bootstrapped start → ∀ s, Run Step WritesKeyed start s → AllAcceptable s.org :=
  ⟨unkeyed_write_accepted, revoked_before_its_write⟩

end ParsecCloud.Server

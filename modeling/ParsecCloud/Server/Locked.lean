import ParsecCloud.Server.System

/- What a call has checked before the webhooks still holds when it is done, by the locks it has. -/
namespace ParsecCloud.Server
open Certif Rust Runs MemoryOrganization

/-- What is checked of a vlob write. -/
structure WriteValid (org : MemoryOrganization) (write : VlobWrite) (userId : UserID)
    (user : MemoryUser) (realm : MemoryRealm) : Prop where
  hasAuthor : org.HasAuthor write.author userId user
  isRealm : org.realms.get? write.realmId = some realm
  role : mayWrite (realm.getCurrentRoleFor userId) = true
  index : realm.keyRotations.length = write.keyIndex
  later : max (org.lastTimestamp .common) (org.lastTimestamp (.realm write.realmId)) <
    write.timestamp

/-- What is checked of a key rotation. -/
structure RotationValid (org : MemoryOrganization) (rotation : WaitingRotation) (userId : UserID)
    (user : MemoryUser) (realm : MemoryRealm) : Prop where
  hasAuthor : org.HasAuthor rotation.certif.author userId user
  isRealm : org.realms.get? rotation.certif.realmId = some realm
  owner : realm.getCurrentRoleFor userId = some .owner
  index : rotation.certif.keyIndex = realm.keyRotations.length + 1
  participants : rotation.accesses.keys.toFinset = participants realm.roles
  common : rotation.commonLastTimestamp = org.lastTimestamp .common
  realmTopic : rotation.realmLastTimestamp = org.lastTimestamp (.realm rotation.certif.realmId)

def Waiting.Valid (org : MemoryOrganization) : Waiting → Prop
  | .createVlob write => write.version = 1 ∧ ∃ userId user realm, WriteValid org write userId user realm
  | .updateVlob write _ => ∃ userId user realm, WriteValid org write userId user realm
  | .rotateKey rotation => ∃ userId user realm, RotationValid org rotation userId user realm

section Checked
variable {org : MemoryOrganization} {now : DateTime} {write : VlobWrite}

theorem checkWrite_ok {userId : UserID} {realm : MemoryRealm} {done : Unit}
    (ok : org.checkWrite userId realm write = .ok done) :
    mayWrite (realm.getCurrentRoleFor userId) = true ∧
      realm.keyRotations.length = write.keyIndex := by
  unfold MemoryOrganization.checkWrite at ok
  obtain ⟨_, role, ok⟩ := bind_eq_ok.mp ok
  rw [refuse_eq_ok] at role ok
  rw [decide_eq_false_iff_not, not_not] at ok
  exact ⟨by simpa using role, ok⟩

theorem checkWriteTimestamp_ok {done : Unit}
    (ok : org.checkWriteTimestamp now write = .ok done) :
    max (org.lastTimestamp .common) (org.lastTimestamp (.realm write.realmId)) < write.timestamp := by
  unfold MemoryOrganization.checkWriteTimestamp at ok
  obtain ⟨_, -, ok⟩ := bind_eq_ok.mp ok
  exact checkCausality_ok ok

theorem createVlobCheck_ok (ok : org.createVlobCheck now write = .ok ()) :
    ∃ userId user realm, WriteValid org write userId user realm ∧
      realm.vlobs.get? write.vlobId = none := by
  unfold MemoryOrganization.createVlobCheck at ok
  obtain ⟨⟨device, user⟩, isAuthor, ok⟩ := bind_eq_ok.mp ok
  obtain ⟨realm, isRealm, ok⟩ := bind_eq_ok.mp ok
  obtain ⟨_, allowed, ok⟩ := bind_eq_ok.mp ok
  obtain ⟨_, isNew, ok⟩ := bind_eq_ok.mp ok
  obtain ⟨role, index⟩ := checkWrite_ok allowed
  rw [refuse_eq_ok, Option.isSome_eq_false_iff, Option.isNone_iff_eq_none] at isNew
  exact ⟨_, user, realm, ⟨hasAuthor_of (checkAuthor_ok isAuthor), findRealm_ok isRealm, role, index,
    checkWriteTimestamp_ok ok⟩, isNew⟩

theorem updateVlobCheck_ok {place : Nat} (ok : org.updateVlobCheck now write = .ok place) :
    ∃ userId user realm, WriteValid org write userId user realm ∧
      realm.vlobs.get? write.vlobId = some place := by
  unfold MemoryOrganization.updateVlobCheck at ok
  obtain ⟨⟨device, user⟩, isAuthor, ok⟩ := bind_eq_ok.mp ok
  obtain ⟨realm, isRealm, ok⟩ := bind_eq_ok.mp ok
  cases found : realm.vlobs.get? write.vlobId with
  | none =>
    simp only [found] at ok
    cases ok
  | some atoms =>
    simp only [found] at ok
    obtain ⟨_, allowed, ok⟩ := bind_eq_ok.mp ok
    obtain ⟨_, later, ok⟩ := bind_eq_ok.mp ok
    cases ok
    obtain ⟨role, index⟩ := checkWrite_ok allowed
    exact ⟨_, user, realm, ⟨hasAuthor_of (checkAuthor_ok isAuthor), findRealm_ok isRealm, role,
      index, checkWriteTimestamp_ok later⟩, found⟩

theorem rotateKeyCheck_ok {author : DeviceID} {key : VerifyKey}
    {certificate : Uploaded RealmKeyRotationCertificate} {accesses : Dict UserID (List Byte)}
    {keysBundle : List Byte} {sequesterAccesses : Option (Dict SequesterServiceID (List Byte))}
    {rotation : WaitingRotation}
    (ok : org.rotateKeyCheck now author key certificate accesses keysBundle sequesterAccesses =
      .ok rotation) :
    ∃ userId user realm, RotationValid org rotation userId user realm := by
  unfold MemoryOrganization.rotateKeyCheck at ok
  obtain ⟨⟨device, user⟩, isAuthor, ok⟩ := bind_eq_ok.mp ok
  obtain ⟨certif, valid, ok⟩ := bind_eq_ok.mp ok
  obtain ⟨realm, isRealm, ok⟩ := bind_eq_ok.mp ok
  obtain ⟨_, owner, ok⟩ := bind_eq_ok.mp ok
  obtain ⟨_, index, ok⟩ := bind_eq_ok.mp ok
  obtain ⟨_, members, ok⟩ := bind_eq_ok.mp ok
  obtain ⟨_, -, ok⟩ := bind_eq_ok.mp ok
  cases ok
  unfold realmRotateKeyValidate at valid
  obtain ⟨content, isContent, valid⟩ := bind_eq_ok.mp valid
  obtain ⟨_, -, valid⟩ := bind_eq_ok.mp valid
  cases valid
  rw [refuse_eq_ok, decide_eq_false_iff_not, not_not] at owner index members
  have hasAuthor := hasAuthor_of (checkRealmAuthor_ok isAuthor)
  rw [← CertificateSigner.user.inj (verifyAndLoad_ok isContent).2] at hasAuthor
  exact ⟨_, user, realm, hasAuthor, findRealm_ok isRealm, owner, index, members, rfl, rfl⟩

theorem Request.Checked.valid {request : Request} {call : Waiting}
    (checked : request.Checked org call) : call.Valid org := by
  cases checked with
  | createVlob first ok =>
    obtain ⟨userId, user, realm, valid, -⟩ := createVlobCheck_ok ok
    exact ⟨first, userId, user, realm, valid⟩
  | updateVlob ok =>
    obtain ⟨userId, user, realm, valid, -⟩ := updateVlobCheck_ok ok
    exact ⟨userId, user, realm, valid⟩
  | rotateKey ok => exact rotateKeyCheck_ok ok

end Checked

/-- Two organizations that a call on this realm sees alike. -/
structure SameFor (org org' : MemoryOrganization) (realmId : VlobID) : Prop where
  expired : org'.isExpired = org.isExpired
  users : org'.users = org.users
  devices : org'.devices = org.devices
  common : org'.lastTimestamp .common = org.lastTimestamp .common
  realmTopic : org'.lastTimestamp (.realm realmId) = org.lastTimestamp (.realm realmId)
  realm : ∀ realm, org.realms.get? realmId = some realm →
    ∃ realm', org'.realms.get? realmId = some realm' ∧ realm'.roles = realm.roles ∧
      realm'.keyRotations = realm.keyRotations

theorem getCurrentRoleFor_congr {realm realm' : MemoryRealm} (same : realm'.roles = realm.roles)
    (userId : UserID) : realm'.getCurrentRoleFor userId = realm.getCurrentRoleFor userId := by
  rw [MemoryRealm.getCurrentRoleFor, MemoryRealm.getCurrentRoleFor, same]

theorem HasAuthor.of_same {org org' : MemoryOrganization} {author : DeviceID} {userId : UserID}
    {user : MemoryUser} (expired : org'.isExpired = org.isExpired) (users : org'.users = org.users)
    (devices : org'.devices = org.devices) (hasAuthor : org.HasAuthor author userId user) :
    org'.HasAuthor author userId user := by
  rw [MemoryOrganization.HasAuthor, expired, users, devices]
  exact hasAuthor

theorem WriteValid.of_same {org org' : MemoryOrganization} {write : VlobWrite} {userId : UserID}
    {user : MemoryUser} {realm : MemoryRealm} (valid : WriteValid org write userId user realm)
    (same : SameFor org org' write.realmId) : ∃ realm', WriteValid org' write userId user realm' := by
  obtain ⟨realm', isRealm, roles, rotations⟩ := same.realm realm valid.isRealm
  refine ⟨realm', HasAuthor.of_same same.expired same.users same.devices valid.hasAuthor, isRealm,
    ?_, ?_, ?_⟩
  · rw [getCurrentRoleFor_congr roles]
    exact valid.role
  · rw [rotations]
    exact valid.index
  · rw [same.common, same.realmTopic]
    exact valid.later

theorem RotationValid.of_same {org org' : MemoryOrganization} {rotation : WaitingRotation}
    {userId : UserID} {user : MemoryUser} {realm : MemoryRealm}
    (valid : RotationValid org rotation userId user realm)
    (same : SameFor org org' rotation.certif.realmId) :
    ∃ realm', RotationValid org' rotation userId user realm' := by
  obtain ⟨realm', isRealm, roles, rotations⟩ := same.realm realm valid.isRealm
  refine ⟨realm', HasAuthor.of_same same.expired same.users same.devices valid.hasAuthor, isRealm,
    ?_, ?_, ?_, ?_, ?_⟩
  · rw [getCurrentRoleFor_congr roles]
    exact valid.owner
  · rw [rotations]
    exact valid.index
  · rw [roles]
    exact valid.participants
  · rw [same.common]
    exact valid.common
  · rw [same.realmTopic]
    exact valid.realmTopic

theorem Waiting.Valid.of_same {org org' : MemoryOrganization} {call : Waiting}
    (valid : call.Valid org) (same : SameFor org org' call.realmId) : call.Valid org' := by
  cases call with
  | createVlob write =>
    obtain ⟨first, userId, user, realm, valid⟩ := valid
    obtain ⟨realm', valid'⟩ := valid.of_same same
    exact ⟨first, userId, user, realm', valid'⟩
  | updateVlob write place =>
    obtain ⟨userId, user, realm, valid⟩ := valid
    obtain ⟨realm', valid'⟩ := valid.of_same same
    exact ⟨userId, user, realm', valid'⟩
  | rotateKey rotation =>
    obtain ⟨userId, user, realm, valid⟩ := valid
    obtain ⟨realm', valid'⟩ := valid.of_same same
    exact ⟨userId, user, realm', valid'⟩

theorem lastTimestamp_update {org org' : MemoryOrganization} {topic : TopicAndDiscriminant}
    {timestamp : DateTime}
    (updated : org'.perTopicLastTimestamp =
      Function.update org.perTopicLastTimestamp topic (some timestamp))
    (topic' : TopicAndDiscriminant) :
    org'.lastTimestamp topic' = if topic' = topic then timestamp else org.lastTimestamp topic' := by
  rw [lastTimestamp, updated, Function.update_apply]
  split
  · rfl
  · rfl

theorem Effect.same {org org' : MemoryOrganization} {kind : OperationKind}
    {topic : TopicAndDiscriminant} {realmId : VlobID} (effect : Effect org kind topic org')
    (notCommon : topic ≠ .common)
    (notRealm : topic ≠ .realm realmId) : SameFor org org' realmId := by
  have topics : ∀ {timestamp}, org'.perTopicLastTimestamp =
      Function.update org.perTopicLastTimestamp topic (some timestamp) →
      org'.lastTimestamp .common = org.lastTimestamp .common ∧
        org'.lastTimestamp (.realm realmId) = org.lastTimestamp (.realm realmId) := by
    intro timestamp updated
    rw [lastTimestamp_update updated, lastTimestamp_update updated, if_neg notCommon.symm,
      if_neg notRealm.symm]
    exact ⟨rfl, rfl⟩
  have sameRealm : org'.realms = org.realms → ∀ realm, org.realms.get? realmId = some realm →
      ∃ realm', org'.realms.get? realmId = some realm' ∧ realm'.roles = realm.roles ∧
        realm'.keyRotations = realm.keyRotations := by
    intro same realm isRealm
    exact ⟨realm, same ▸ isRealm, rfl, rfl⟩
  have otherRealm : ∀ {certifRealm realm₁}, topic = .realm certifRealm →
      org'.realms = org.realms.set certifRealm realm₁ →
      ∀ realm, org.realms.get? realmId = some realm →
        ∃ realm', org'.realms.get? realmId = some realm' ∧ realm'.roles = realm.roles ∧
          realm'.keyRotations = realm.keyRotations := by
    intro certifRealm realm₁ isTopic updated realm isRealm
    refine ⟨realm, ?_, rfl, rfl⟩
    rw [updated, Dict.get?_set_of_ne]
    · exact isRealm
    · rintro rfl
      exact notRealm isTopic
  cases effect with
  | user => exact absurd rfl notCommon
  | device => exact absurd rfl notCommon
  | revocation => exact absurd rfl notCommon
  | update => exact absurd rfl notCommon
  | newRealm => exact ⟨rfl, rfl, rfl, (topics rfl).1, (topics rfl).2, otherRealm rfl rfl⟩
  | share => exact ⟨rfl, rfl, rfl, (topics rfl).1, (topics rfl).2, otherRealm rfl rfl⟩
  | unshare => exact ⟨rfl, rfl, rfl, (topics rfl).1, (topics rfl).2, otherRealm rfl rfl⟩
  | rename => exact ⟨rfl, rfl, rfl, (topics rfl).1, (topics rfl).2, otherRealm rfl rfl⟩
  | setup => exact ⟨rfl, rfl, rfl, (topics rfl).1, (topics rfl).2, sameRealm rfl⟩
  | deletion => exact ⟨rfl, rfl, rfl, (topics rfl).1, (topics rfl).2, sameRealm rfl⟩
  | service => exact ⟨rfl, rfl, rfl, (topics rfl).1, (topics rfl).2, sameRealm rfl⟩
  | revokedService => exact ⟨rfl, rfl, rfl, (topics rfl).1, (topics rfl).2, sameRealm rfl⟩

/-- What a call does when the webhooks have accepted. -/
inductive StoreEffect (org : MemoryOrganization) : Waiting → MemoryOrganization → Prop where
  | createVlob {write : VlobWrite} {realm : MemoryRealm}
      (isRealm : org.realms.get? write.realmId = some realm) :
      StoreEffect org (.createVlob write) (org.withNewVlob realm write)
  | updateVlob {write : VlobWrite} {place : Nat} {realm : MemoryRealm}
      (isRealm : org.realms.get? write.realmId = some realm)
      (version : write.version = (org.atomLists.getD place []).length + 1) :
      StoreEffect org (.updateVlob write place) (org.withAtom realm write place)
  | rotateKey {rotation : WaitingRotation} {realm : MemoryRealm}
      (isRealm : org.realms.get? rotation.certif.realmId = some realm)
      (later : max rotation.commonLastTimestamp rotation.realmLastTimestamp <
        rotation.certif.timestamp) :
      StoreEffect org (.rotateKey rotation) (org.withRotation realm rotation)

theorem Waiting.store_effect {org org' : MemoryOrganization} {call : Waiting}
    (ok : call.store org = .ok org') : StoreEffect org call org' := by
  cases call with
  | createVlob write =>
    change org.createVlobStore write = .ok org' at ok
    unfold MemoryOrganization.createVlobStore at ok
    obtain ⟨realm, isRealm, ok⟩ := bind_eq_ok.mp ok
    cases ok
    exact .createVlob (findRealm_ok isRealm)
  | updateVlob write place =>
    change org.updateVlobStore write place = .ok org' at ok
    unfold MemoryOrganization.updateVlobStore at ok
    obtain ⟨realm, isRealm, ok⟩ := bind_eq_ok.mp ok
    obtain ⟨_, version, ok⟩ := bind_eq_ok.mp ok
    cases ok
    rw [refuse_eq_ok, decide_eq_false_iff_not, not_not] at version
    exact .updateVlob (findRealm_ok isRealm) version
  | rotateKey rotation =>
    change org.rotateKeyStore rotation = .ok org' at ok
    unfold MemoryOrganization.rotateKeyStore at ok
    obtain ⟨_, later, ok⟩ := bind_eq_ok.mp ok
    obtain ⟨realm, isRealm, ok⟩ := bind_eq_ok.mp ok
    cases ok
    exact .rotateKey (findRealm_ok isRealm) (checkCausality_ok later)

/-- The end of a call leaves what another call has seen, unless it is a rotation of its realm. -/
theorem StoreEffect.same {org org' : MemoryOrganization} {call : Waiting} {realmId : VlobID}
    (effect : StoreEffect org call org')
    (compatible : call.isRotation = true → call.realmId ≠ realmId) : SameFor org org' realmId := by
  have vlobRealm : ∀ {write realm realm₁}, org.realms.get? write = some realm →
      org'.realms = org.realms.set write realm₁ → realm₁.roles = realm.roles →
      realm₁.keyRotations = realm.keyRotations →
      ∀ realm, org.realms.get? realmId = some realm →
        ∃ realm', org'.realms.get? realmId = some realm' ∧ realm'.roles = realm.roles ∧
          realm'.keyRotations = realm.keyRotations := by
    intro write realm realm₁ isRealm updated roles rotations other isOther
    rw [updated, Dict.get?_set]
    split
    · rename_i same
      rw [same, isRealm] at isOther
      cases isOther
      exact ⟨realm₁, rfl, roles, rotations⟩
    · exact ⟨other, isOther, rfl, rfl⟩
  cases effect with
  | createVlob isRealm => exact ⟨rfl, rfl, rfl, rfl, rfl, vlobRealm isRealm rfl rfl rfl⟩
  | updateVlob isRealm => exact ⟨rfl, rfl, rfl, rfl, rfl, vlobRealm isRealm rfl rfl rfl⟩
  | @rotateKey rotation realm isRealm later =>
    have other : rotation.certif.realmId ≠ realmId := compatible rfl
    have topics := @lastTimestamp_update org (org.withRotation realm rotation)
      (.realm rotation.certif.realmId) rotation.certif.timestamp rfl
    refine ⟨rfl, rfl, rfl, ?_, ?_, ?_⟩
    · rw [topics, if_neg (by simp)]
    · rw [topics, if_neg (by simpa using other.symm)]
    · intro realm' isRealm'
      exact ⟨realm', (Dict.get?_set_of_ne other.symm).trans isRealm', rfl, rfl⟩

/-- Two calls that wait together. -/
def Compatible (a b : Waiting) : Prop :=
  a.realmId = b.realmId → a.isRotation = false ∧ b.isRotation = false

/-- The calls that wait are still what they were checked to be. -/
structure StateValid (s : State) : Prop where
  valid : ∀ call ∈ s.waiting, call.Valid s.org
  compatible : s.waiting.Pairwise Compatible

theorem Compatible.symm {a b : Waiting} (compatible : Compatible a b) : Compatible b a := by
  intro same
  exact (compatible same.symm).symm

theorem StateValid.step {s s' : State} {event : Event} (valid : StateValid s)
    (step : Step s event s') : StateValid s' := by
  cases step with
  | @operation org org' waiting succeeded op free ok =>
    obtain ⟨topic, isTopic, effect⟩ := Operation.effect ok
    refine ⟨?_, valid.compatible⟩
    intro call member
    have notHeld := free topic isTopic call member
    rw [Waiting.Holds, not_or, not_or] at notHeld
    exact (valid.valid call member).of_same (effect.same notHeld.1 notHeld.2.1)
  | @waits org waiting succeeded request call checked free webhooks =>
    constructor
    · intro other member
      rcases List.mem_append.mp member with isOld | isNew
      · exact valid.valid other isOld
      · rw [List.mem_singleton.mp isNew]
        exact checked.valid
    · rw [List.pairwise_append]
      refine ⟨valid.compatible, List.pairwise_singleton _ _, ?_⟩
      intro other isOther new isNew
      rw [List.mem_singleton.mp isNew]
      exact free other isOther
  | @atOnce org org' waiting succeeded request call checked free noWebhook ok =>
    refine ⟨?_, valid.compatible⟩
    intro other member
    refine (valid.valid other member).of_same ((Waiting.store_effect ok).same ?_)
    intro rotation same
    rw [(free other member same.symm).2] at rotation
    cases rotation
  | @accepted org org' before after succeeded call ok =>
    obtain ⟨left, right, across⟩ := List.pairwise_append.mp valid.compatible
    obtain ⟨callRight, right⟩ := List.pairwise_cons.mp right
    constructor
    · intro other member
      have isMember : other ∈ before ++ call :: after :=
        ((List.sublist_cons_self call after).append_left before).subset member
      refine (valid.valid other isMember).of_same ((Waiting.store_effect ok).same ?_)
      intro rotation same
      have compatible : Compatible call other := by
        rcases List.mem_append.mp member with isBefore | isAfter
        · exact (across other isBefore call (by simp)).symm
        · exact callRight other isAfter
      rw [(compatible same).1] at rotation
      cases rotation
    · rw [List.pairwise_append]
      refine ⟨left, right, ?_⟩
      intro a isA b isB
      exact across a isA b (List.mem_cons_of_mem _ isB)
  | @rejected org before after succeeded call =>
    obtain ⟨left, right, across⟩ := List.pairwise_append.mp valid.compatible
    constructor
    · intro other member
      apply valid.valid
      exact ((List.sublist_cons_self call after).append_left before).subset member
    · rw [List.pairwise_append]
      refine ⟨left, (List.pairwise_cons.mp right).2, ?_⟩
      intro a isA b isB
      exact across a isA b (List.mem_cons_of_mem _ isB)

/-- What the operations and the ends of the calls keep holds after every run. -/
theorem run_org {inv : MemoryOrganization → Prop} {admits : State → Event → Prop}
    {start s : State} (valid : StateValid start) (first : inv start.org)
    (operation : ∀ s op topic org', admits s (.operation op) → op.run s.org = .ok org' →
      Effect s.org op.kind topic org' → inv s.org → inv org')
    (store : ∀ s event call org', admits s event → call.Valid s.org →
      StoreEffect s.org call org' → inv s.org → inv org')
    (run : Run Step admits start s) : StateValid s ∧ inv s.org := by
  induction run with
  | start => exact ⟨valid, first⟩
  | step _ met taken ih =>
    obtain ⟨isValid, holds⟩ := ih
    refine ⟨isValid.step taken, ?_⟩
    cases taken with
    | operation free ok =>
      obtain ⟨topic, isTopic, effect⟩ := Operation.effect ok
      exact operation _ _ topic _ met ok effect holds
    | waits => exact holds
    | atOnce checked free noWebhook ok =>
      exact store _ _ _ _ met checked.valid (Waiting.store_effect ok) holds
    | accepted ok => exact store _ _ _ _ met (isValid.valid _ (by simp)) (Waiting.store_effect ok) holds
    | rejected => exact holds

end ParsecCloud.Server

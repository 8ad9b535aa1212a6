import ParsecCloud.Server.CertificateLogs

/- A device that polls the certificates from the last one it has received gets the same certificates
   as in one poll. The certificates of the sequester topic are read in the order of the services, so
   that this holds as long as only the last service is revoked. -/
namespace ParsecCloud.Server
open Certif Rust Runs MemoryOrganization DatedLog

namespace MemoryOrganization
variable (org : MemoryOrganization)

/-- The user of a device, and whether it gets redacted certificates. -/
def viewer (author : DeviceID) : Option (UserID × Bool) :=
  (org.devices.get? author).bind fun device =>
    (org.users.get? device.cooked.userId).map fun user =>
      (device.cooked.userId, decide (user.currentProfile = .outsider))

/-- The certificates of a topic from scratch. -/
def view (userId : UserID) (redacted : Bool) : TopicAndDiscriminant → List CertificateEntry
  | .common => org.commonCertificates redacted
  | .sequester => org.sequesterCertificates
  | .realm realmId =>
    match org.realms.get? realmId with
    | none => []
    | some realm => realm.certificates userId
  | .shamirRecovery => org.shamirCertificates userId

variable {org} in
theorem view_of_none {userId : UserID} {redacted : Bool} {realmId : VlobID}
    (absent : org.realms.get? realmId = none) : org.view userId redacted (.realm realmId) = [] := by
  rw [view, absent]

variable {org} in
theorem view_of_some {userId : UserID} {redacted : Bool} {realmId : VlobID} {realm : MemoryRealm}
    (isRealm : org.realms.get? realmId = some realm) :
    org.view userId redacted (.realm realmId) = realm.certificates userId := by
  rw [view, isRealm]

/-- A call with the dates of the last certificates that are known. -/
def getCertificatesAfter (author : DeviceID) (after : TopicAndDiscriminant → Option DateTime) :
    Except BadOutcome CertificatesBundle :=
  org.getCertificates author (after .common) (after .sequester) (after .shamirRecovery)
    fun realmId => after (.realm realmId)

end MemoryOrganization

section Bundle

/-- What the loop over the realms does with one of them. -/
def addRealm (userId : UserID) (after : VlobID → Option DateTime)
    (bundle : Dict VlobID (List CertificateEntry)) (realm : MemoryRealm) :
    Dict VlobID (List CertificateEntry) :=
  match since (·.timestamp) (after realm.realmId) (realm.certificates userId) with
  | [] => bundle
  | new :: rest => bundle.set realm.realmId (new :: rest)

variable {userId : UserID} {after : VlobID → Option DateTime}
  {bundle : Dict VlobID (List CertificateEntry)} {realm : MemoryRealm} {realms : List MemoryRealm}

theorem addRealm_other {other : VlobID} (different : other ≠ realm.realmId) :
    (addRealm userId after bundle realm).get? other = bundle.get? other := by
  unfold addRealm
  split
  · rfl
  · exact Dict.get?_set_of_ne different

theorem addRealm_self (absent : bundle.get? realm.realmId = none) :
    ((addRealm userId after bundle realm).get? realm.realmId).getD [] =
      since (·.timestamp) (after realm.realmId) (realm.certificates userId) := by
  unfold addRealm
  split
  · rename_i nothing
    rw [absent, nothing]
    rfl
  · rename_i new rest some
    rw [Dict.get?_set_self, some]
    rfl

theorem foldl_addRealm_other {other : VlobID} (absent : other ∉ realms.map (·.realmId)) :
    (realms.foldl (addRealm userId after) bundle).get? other = bundle.get? other := by
  induction realms generalizing bundle with
  | nil => rfl
  | cons realm rest ih =>
    rw [List.map_cons, List.mem_cons, not_or] at absent
    rw [List.foldl_cons, ih absent.2, addRealm_other absent.1]

theorem foldl_addRealm (unique : (realms.map (·.realmId)).Nodup)
    (absent : ∀ realm ∈ realms, bundle.get? realm.realmId = none) (member : realm ∈ realms) :
    ((realms.foldl (addRealm userId after) bundle).get? realm.realmId).getD [] =
      since (·.timestamp) (after realm.realmId) (realm.certificates userId) := by
  induction realms generalizing bundle with
  | nil => cases member
  | cons first rest ih =>
    rw [List.map_cons, List.nodup_cons] at unique
    rw [List.foldl_cons]
    rcases List.mem_cons.mp member with rfl | isRest
    · rw [foldl_addRealm_other unique.1]
      exact addRealm_self (absent realm List.mem_cons_self)
    · refine ih unique.2 ?_ isRest
      intro other isOther
      have different : other.realmId ≠ first.realmId := by
        intro same
        rw [← same] at unique
        exact unique.1 (List.mem_map_of_mem isOther)
      rw [addRealm_other different]
      exact absent other (List.mem_cons_of_mem _ isOther)

end Bundle

section Call
variable {org : MemoryOrganization} {author : DeviceID} {userId : UserID} {redacted : Bool}

theorem realmCertificates_get? (ids : ∀ realmId realm, org.realms.get? realmId = some realm →
      realm.realmId = realmId) (after : VlobID → Option DateTime) (realmId : VlobID) :
    ((org.realmCertificates userId after).get? realmId).getD [] =
      since (·.timestamp) (after realmId) (org.view userId redacted (.realm realmId)) := by
  have sameIds : org.realms.values.map (·.realmId) = org.realms.keys := by
    rw [Dict.values, Dict.keys, List.map_map]
    apply List.map_congr_left
    intro item member
    exact ids item.1 item.2 (Dict.get?_eq_some_iff.mpr member)
  have fold : org.realmCertificates userId after =
      org.realms.values.foldl (addRealm userId after) .empty := rfl
  rw [fold, view]
  cases found : org.realms.get? realmId with
  | none =>
    rw [foldl_addRealm_other]
    · rfl
    · rw [sameIds]
      exact Dict.get?_eq_none_iff.mp found
  | some realm =>
    have isId := ids realmId realm found
    have member : realm ∈ org.realms.values :=
      List.mem_map.mpr ⟨_, Dict.get?_eq_some_iff.mp found, rfl⟩
    rw [← isId]
    refine foldl_addRealm ?_ (fun _ _ => rfl) member
    rw [sameIds]
    exact org.realms.unique

/-- A device that exists gets, for each topic, what is after the date it gives. -/
theorem getCertificatesAfter_ok (notExpired : org.isExpired = false)
    (services : org.sequesterAuthority.isSome = true → org.sequesterServices.isSome = true)
    (ids : ∀ realmId realm, org.realms.get? realmId = some realm → realm.realmId = realmId)
    (isViewer : org.viewer author = some (userId, redacted))
    (after : TopicAndDiscriminant → Option DateTime) :
    ∃ bundle, org.getCertificatesAfter author after = .ok bundle ∧ ∀ topic,
      bundle.of topic = since (·.timestamp) (after topic) (org.view userId redacted topic) := by
  obtain ⟨device, isDevice, hasUser⟩ := Option.bind_eq_some_iff.mp isViewer
  obtain ⟨user, isUser, same⟩ := Option.map_eq_some_iff.mp hasUser
  cases same
  have noAssertion : (org.sequesterAuthority.isSome && org.sequesterServices.isNone) = false := by
    cases isAuthority : org.sequesterAuthority.isSome with
    | false => rfl
    | true =>
      rw [Option.isNone_eq_false_iff.mpr (services isAuthority)]
      rfl
  refine ⟨⟨since (·.timestamp) (after .common)
      (org.commonCertificates (decide (user.currentProfile = .outsider))),
    since (·.timestamp) (after .sequester) org.sequesterCertificates,
    since (·.timestamp) (after .shamirRecovery) (org.shamirCertificates device.cooked.userId),
    org.realmCertificates device.cooked.userId fun realmId => after (.realm realmId)⟩, ?_, ?_⟩
  · unfold getCertificatesAfter getCertificates
    refine bind_eq_ok.mpr ⟨(), by rw [notExpired]; rfl, ?_⟩
    rw [isDevice]
    dsimp only
    rw [isUser]
    exact bind_eq_ok.mpr ⟨(), by rw [noAssertion]; rfl, rfl⟩
  · intro topic
    cases topic with
    | common => rfl
    | sequester => rfl
    | realm realmId => exact realmCertificates_get? ids _ realmId
    | shamirRecovery => rfl

theorem viewer_of_ok {after : TopicAndDiscriminant → Option DateTime} {bundle : CertificatesBundle}
    (ok : org.getCertificatesAfter author after = .ok bundle) :
    org.isExpired = false ∧ ∃ userId redacted, org.viewer author = some (userId, redacted) := by
  unfold getCertificatesAfter getCertificates at ok
  obtain ⟨_, notExpired, ok⟩ := bind_eq_ok.mp ok
  refine ⟨refuse_eq_ok.mp notExpired, ?_⟩
  cases isDevice : org.devices.get? author with
  | none =>
    simp only [isDevice] at ok
    cases ok
  | some device =>
    cases isUser : org.users.get? device.cooked.userId with
    | none =>
      simp only [isDevice, isUser] at ok
      cases ok
    | some user =>
      rw [viewer, isDevice, Option.bind_some, isUser]
      exact ⟨_, _, rfl⟩

end Call

/-- The users, the devices and the shares that the certificates refer to. -/
structure References (org : MemoryOrganization) : Prop where
  userIds : ∀ userId user, org.users.get? userId = some user → user.cooked.userId = userId
  deviceUsers : ∀ deviceId device, org.devices.get? deviceId = some device →
    ∃ user, org.users.get? device.cooked.userId = some user ∧
      user.cooked.timestamp ≤ device.cooked.timestamp
  shares : ∀ userId recoveries, org.shamirRecoveries.get? userId = some recoveries →
    ∀ recovery ∈ recoveries, ∀ recipient share, recovery.shares.get? recipient = some share →
      share.1.timestamp = recovery.cookedBrief.timestamp

/-- The certificates of all the topics are logs. -/
structure CertificatesLogged (org : MemoryOrganization) : Prop where
  common : ∀ redacted, Logged (org.lastTimestamp .common) (org.commonEntries redacted)
  shamir : ∀ userId, Logged (org.lastTimestamp .shamirRecovery) (org.shamirEntries userId)
  realms : ∀ realmId realm, org.realms.get? realmId = some realm → realm.realmId = realmId ∧
    RealmLogged (org.lastTimestamp (.realm realmId)) realm
  sequester : InOrder (org.lastTimestamp .sequester) org.sequesterCertificates
  services : org.sequesterAuthority.isSome = true → org.sequesterServices.isSome = true
  references : References org

section Persisting
variable {org org' : MemoryOrganization}

/-- The devices and the users stay, with their certificates. -/
structure Persists (org org' : MemoryOrganization) : Prop where
  devices : ∀ deviceId device, org.devices.get? deviceId = some device →
    org'.devices.get? deviceId = some device
  users : ∀ userId user, org.users.get? userId = some user →
    ∃ user', org'.users.get? userId = some user' ∧ user'.cooked = user.cooked

theorem Persists.of_eq (devices : org'.devices = org.devices) (users : org'.users = org.users) :
    Persists org org' := by
  constructor
  · intro deviceId device isDevice
    rw [devices]
    exact isDevice
  · intro userId user isUser
    rw [users]
    exact ⟨user, isUser, rfl⟩

theorem Persists.of_user {userId : UserID} {user : MemoryUser}
    (devices : ∀ deviceId device, org.devices.get? deviceId = some device →
      org'.devices.get? deviceId = some device)
    (users : org'.users = org.users.set userId user)
    (same : ∀ old, org.users.get? userId = some old → user.cooked = old.cooked) :
    Persists org org' := by
  refine ⟨devices, ?_⟩
  intro other found isFound
  rw [users, Dict.get?_set]
  split
  · rename_i isSame
    rw [isSame] at isFound
    exact ⟨user, rfl, same found isFound⟩
  · exact ⟨found, isFound, rfl⟩

theorem Effect.persists {kind : OperationKind} {topic : TopicAndDiscriminant}
    (effect : Effect org kind topic org') : Persists org org' := by
  cases effect with
  | user raw redacted deviceRaw deviceRedacted hasAuthor admin _ _ _ _ newUser newDevice =>
    refine .of_user (fun _ _ => Dict.kept_set newDevice) rfl ?_
    intro old isOld
    rw [newUser] at isOld
    cases isOld
  | device raw redacted hasAuthor deviceAuthor newDevice =>
    exact ⟨fun _ _ => Dict.kept_set newDevice, fun _ user isUser => ⟨user, isUser, rfl⟩⟩
  | revocation raw hasAuthor admin other isTarget =>
    refine .of_user (fun _ _ isDevice => isDevice) rfl ?_
    intro old isOld
    rw [isTarget] at isOld
    cases isOld
    rfl
  | update raw hasAuthor admin other isTarget =>
    refine .of_user (fun _ _ isDevice => isDevice) rfl ?_
    intro old isOld
    rw [isTarget] at isOld
    cases isOld
    rfl
  | newRealm => exact .of_eq rfl rfl
  | share => exact .of_eq rfl rfl
  | unshare => exact .of_eq rfl rfl
  | rename => exact .of_eq rfl rfl
  | setup => exact .of_eq rfl rfl
  | deletion => exact .of_eq rfl rfl
  | service => exact .of_eq rfl rfl
  | revokedService => exact .of_eq rfl rfl

theorem StoreEffect.persists {call : Waiting} (effect : StoreEffect org call org') :
    Persists org org' := by
  cases effect with
  | createVlob => exact .of_eq rfl rfl
  | updateVlob => exact .of_eq rfl rfl
  | rotateKey => exact .of_eq rfl rfl

theorem References.deviceUser (references : References org) (persists : Persists org org')
    {deviceId : DeviceID} {device : MemoryDevice}
    (isDevice : org.devices.get? deviceId = some device) :
    ∃ user, org'.users.get? device.cooked.userId = some user ∧
      user.cooked.timestamp ≤ device.cooked.timestamp := by
  obtain ⟨user, isUser, dated⟩ := references.deviceUsers deviceId device isDevice
  obtain ⟨user', isUser', same⟩ := persists.users _ user isUser
  rw [← same] at dated
  exact ⟨user', isUser', dated⟩

theorem References.of_eq (references : References org) (devices : org'.devices = org.devices)
    (users : org'.users = org.users) (recoveries : org'.shamirRecoveries = org.shamirRecoveries) :
    References org' := by
  constructor
  · rw [users]
    exact references.userIds
  · rw [devices, users]
    exact references.deviceUsers
  · rw [recoveries]
    exact references.shares

theorem References.of_user {userId : UserID} {user target : MemoryUser} (references : References org)
    (isTarget : org.users.get? userId = some target)
    (users : org'.users = org.users.set userId user) (same : user.cooked = target.cooked)
    (persists : Persists org org') (devices : org'.devices = org.devices)
    (recoveries : org'.shamirRecoveries = org.shamirRecoveries) : References org' := by
  constructor
  · intro other found isFound
    rcases Dict.found_set users isFound with ⟨isSame, rfl⟩ | ⟨-, isFound⟩
    · rw [same, isSame]
      exact references.userIds userId target isTarget
    · exact references.userIds other found isFound
  · intro deviceId device isDevice
    rw [devices] at isDevice
    exact references.deviceUser persists isDevice
  · rw [recoveries]
    exact references.shares

theorem References.of_recoveries {userId : UserID} {recoveries : List MemoryShamirRecovery}
    (references : References org) (devices : org'.devices = org.devices)
    (users : org'.users = org.users)
    (isRecoveries : org'.shamirRecoveries = org.shamirRecoveries.set userId recoveries)
    (shares : ∀ recovery ∈ recoveries, ∀ recipient share,
      recovery.shares.get? recipient = some share →
        share.1.timestamp = recovery.cookedBrief.timestamp) : References org' := by
  constructor
  · rw [users]
    exact references.userIds
  · rw [devices, users]
    exact references.deviceUsers
  · intro other found isFound
    rcases Dict.found_set isRecoveries isFound with ⟨-, rfl⟩ | ⟨-, isFound⟩
    · exact shares
    · exact references.shares other found isFound

theorem References.recoveriesOf (references : References org) {userId : UserID}
    {recovery : MemoryShamirRecovery} (member : recovery ∈ org.recoveriesOf userId)
    (recipient : UserID) (share : ShamirRecoveryShareCertificate × List Byte)
    (isShare : recovery.shares.get? recipient = some share) :
    share.1.timestamp = recovery.cookedBrief.timestamp := by
  rw [MemoryOrganization.recoveriesOf] at member
  cases found : org.shamirRecoveries.get? userId with
  | none =>
    rw [found] at member
    cases member
  | some recoveries =>
    rw [found] at member
    exact references.shares userId recoveries found recovery member recipient share isShare

theorem References.operation {kind : OperationKind} {topic : TopicAndDiscriminant}
    (references : References org)
    (common : Logged (org.lastTimestamp .common) (org.commonEntries false))
    (effect : Effect org kind topic org') : References org' := by
  have persists := effect.persists
  have userDated : ∀ {userId user}, org.users.get? userId = some user →
      user.cooked.timestamp ≤ org.lastTimestamp .common := by
    intro userId user isUser
    refine common.dated ⟨user.cooked.timestamp, 0, user.userCertificate,
      .common (.user user.cooked)⟩ ?_
    rw [commonEntries, List.mem_append, List.mem_flatMap]
    refine Or.inl ⟨user, List.mem_map.mpr ⟨_, Dict.get?_eq_some_iff.mp isUser, rfl⟩, ?_⟩
    exact List.mem_cons_self
  cases effect with
  | @user u d authorId authorUser author raw redacted deviceRaw deviceRedacted hasAuthor admin
      userAuthor deviceAuthor sameUser sameTime newUser newDevice later =>
    constructor
    · intro other found isFound
      change (org.users.set _ _).get? other = some found at isFound
      rcases Dict.found_set rfl isFound with ⟨same, rfl⟩ | ⟨-, isFound⟩
      · exact same.symm
      · exact references.userIds other found isFound
    · intro deviceId device isDevice
      change (org.devices.set _ _).get? deviceId = some device at isDevice
      rcases Dict.found_set rfl isDevice with ⟨-, rfl⟩ | ⟨-, isDevice⟩
      · change ∃ user, (org.users.set _ _).get? d.userId = some user ∧ _
        rw [sameUser, Dict.get?_set_self]
        exact ⟨_, rfl, sameTime.symm.le⟩
      · exact references.deviceUser persists isDevice
    · exact references.shares
  | @device d author authorUser raw redacted hasAuthor deviceAuthor newDevice later =>
    obtain ⟨-, authorDevice, -, -, isUser, -⟩ := hasAuthor
    constructor
    · exact references.userIds
    · intro deviceId device isDevice
      change (org.devices.set _ _).get? deviceId = some device at isDevice
      rcases Dict.found_set rfl isDevice with ⟨-, rfl⟩ | ⟨-, isDevice⟩
      · exact ⟨authorUser, isUser, ((userDated isUser).trans_lt later).le⟩
      · exact references.deviceUser persists isDevice
    · exact references.shares
  | revocation raw hasAuthor admin other isTarget =>
    exact references.of_user isTarget rfl rfl persists rfl rfl
  | update raw hasAuthor admin other isTarget =>
    exact references.of_user isTarget rfl rfl persists rfl rfl
  | newRealm => exact references.of_eq rfl rfl rfl
  | share => exact references.of_eq rfl rfl rfl
  | unshare => exact references.of_eq rfl rfl rfl
  | rename => exact references.of_eq rfl rfl rfl
  | setup noDeletion deleted sharesDated isUser later =>
    refine references.of_recoveries rfl rfl rfl ?_
    intro recovery member recipient share isShare
    rcases List.mem_append.mp member with isOld | isNew
    · exact references.recoveriesOf isOld recipient share isShare
    · rw [List.mem_singleton.mp isNew] at isShare ⊢
      exact (sharesDated recipient share isShare).1
  | deletion raw isSetup notDeleted later =>
    refine references.of_recoveries rfl rfl rfl ?_
    intro recovery member recipient share isShare
    rcases List.mem_or_eq_of_mem_set member with isOld | rfl
    · exact references.recoveriesOf isOld recipient share isShare
    · exact references.recoveriesOf (List.mem_of_getElem? isSetup) recipient share isShare
  | service => exact references.of_eq rfl rfl rfl
  | revokedService => exact references.of_eq rfl rfl rfl

theorem References.store {call : Waiting} (references : References org)
    (effect : StoreEffect org call org') : References org' := by
  cases effect with
  | createVlob => exact references.of_eq rfl rfl rfl
  | updateVlob => exact references.of_eq rfl rfl rfl
  | rotateKey => exact references.of_eq rfl rfl rfl

end Persisting

section Views
variable {org org' : MemoryOrganization}

/-- What a device reads goes on. -/
def ViewsContinue (org org' : MemoryOrganization) : Prop :=
  ∀ userId redacted topic, Continues (org.view userId redacted topic)
    (org'.view userId redacted topic)

theorem CertificatesLogged.grows (logged : CertificatesLogged org)
    (common : ∀ redacted, Grows (org.lastTimestamp .common) (org'.lastTimestamp .common)
      (org.commonEntries redacted) (org'.commonEntries redacted))
    (shamir : ∀ userId, Grows (org.lastTimestamp .shamirRecovery)
      (org'.lastTimestamp .shamirRecovery) (org.shamirEntries userId) (org'.shamirEntries userId))
    (realms : RealmsGrow org org')
    (sequester : Appends (org.lastTimestamp .sequester) (org'.lastTimestamp .sequester)
      org.sequesterCertificates org'.sequesterCertificates)
    (services : org'.sequesterAuthority.isSome = true → org'.sequesterServices.isSome = true)
    (references : References org') : CertificatesLogged org' ∧ ViewsContinue org org' := by
  have realmsLogged : ∀ realmId realm', org'.realms.get? realmId = some realm' →
      (realm'.realmId = realmId ∧ RealmLogged (org'.lastTimestamp (.realm realmId)) realm') ∧
        ∀ userId redacted, Continues (org.view userId redacted (.realm realmId))
          (realm'.certificates userId) := by
    intro realmId realm' isRealm'
    cases isRealm : org.realms.get? realmId with
    | none =>
      refine ⟨realms.new realmId realm' isRealm' isRealm, ?_⟩
      intro userId redacted
      rw [view_of_none isRealm]
      exact Extends.nil _
    | some realm =>
      obtain ⟨found, isFound, sameId, grows⟩ := realms.kept realmId realm isRealm
      rw [isRealm'] at isFound
      cases isFound
      obtain ⟨isId, realmLogged⟩ := logged.realms realmId realm isRealm
      obtain ⟨logged', continues⟩ := realmLogged.grows grows
      refine ⟨⟨sameId.trans isId, logged'⟩, ?_⟩
      intro userId redacted
      rw [view_of_some isRealm]
      exact continues userId
  constructor
  · constructor
    · intro redacted
      exact ((logged.common redacted).grows (common redacted)).1
    · intro userId
      exact ((logged.shamir userId).grows (shamir userId)).1
    · intro realmId realm' isRealm'
      exact (realmsLogged realmId realm' isRealm').1
    · exact (logged.sequester.appends sequester).1
    · exact services
    · exact references
  · intro userId redacted topic
    cases topic with
    | common => exact ((logged.common redacted).grows (common redacted)).2
    | sequester => exact (logged.sequester.appends sequester).2
    | shamirRecovery => exact ((logged.shamir userId).grows (shamir userId)).2
    | realm realmId =>
      cases isRealm' : org'.realms.get? realmId with
      | none =>
        cases isRealm : org.realms.get? realmId with
        | none =>
          rw [view_of_none isRealm, view_of_none isRealm']
          exact Extends.refl _
        | some realm =>
          obtain ⟨found, isFound, -⟩ := realms.kept realmId realm isRealm
          rw [isRealm'] at isFound
          cases isFound
      | some realm' =>
        rw [view_of_some isRealm']
        exact (realmsLogged realmId realm' isRealm').2 userId redacted

theorem Effect.services {kind : OperationKind} {topic : TopicAndDiscriminant}
    (effect : Effect org kind topic org')
    (services : org.sequesterAuthority.isSome = true → org.sequesterServices.isSome = true)
    (hasAuthority : org'.sequesterAuthority.isSome = true) :
    org'.sequesterServices.isSome = true := by
  cases effect with
  | service => rfl
  | revokedService => rfl
  | _ => exact services hasAuthority

theorem CertificatesLogged.operation {kind : OperationKind} {topic : TopicAndDiscriminant}
    (logged : CertificatesLogged org) (effect : Effect org kind topic org')
    (isLast : LastServiceRevoked org kind) :
    CertificatesLogged org' ∧ ViewsContinue org org' :=
  logged.grows effect.common_grows effect.shamir_grows effect.realms_grow
    (effect.sequester_appends isLast) (effect.services logged.services)
    (logged.references.operation (logged.common false) effect)

theorem CertificatesLogged.store {call : Waiting} (logged : CertificatesLogged org)
    (valid : call.Valid org) (effect : StoreEffect org call org') :
    CertificatesLogged org' ∧ ViewsContinue org org' := by
  refine logged.grows effect.common_grows effect.shamir_grows (effect.realms_grow valid)
    effect.sequester_appends ?_ (logged.references.store effect)
  cases effect with
  | createVlob => exact logged.services
  | updateVlob => exact logged.services
  | rotateKey => exact logged.services

theorem ViewsContinue.refl : ViewsContinue org org := fun _ _ _ => Extends.refl _

theorem userEntries_dated {redacted : Bool} {user : MemoryUser} {entry : CertificateEntry}
    (member : entry ∈ userEntries redacted user) : entry.content.timestamp = entry.timestamp := by
  simp only [userEntries, List.mem_cons, List.mem_append, List.mem_map] at member
  rcases member with rfl | ⟨_, -, rfl⟩ | ⟨_, -, rfl⟩
  · rfl
  · rfl
  · rfl

theorem serviceEntries_dated {service : MemorySequesterService} {entry : CertificateEntry}
    (member : entry ∈ serviceEntries service) : entry.content.timestamp = entry.timestamp := by
  simp only [serviceEntries, List.mem_cons, List.mem_map] at member
  rcases member with rfl | ⟨_, -, rfl⟩
  · rfl
  · rfl

theorem realmEntries_dated {realm : MemoryRealm} {entry : CertificateEntry}
    (member : entry ∈ realm.entries) : entry.content.timestamp = entry.timestamp := by
  simp only [MemoryRealm.entries, List.mem_append, List.mem_map] at member
  rcases member with (⟨_, -, rfl⟩ | ⟨_, -, rfl⟩) | ⟨_, -, rfl⟩
  · rfl
  · rfl
  · rfl

theorem shamirEntries_dated {recovery : MemoryShamirRecovery} {userId : UserID}
    {entry : CertificateEntry}
    (shares : ∀ recipient share, recovery.shares.get? recipient = some share →
      share.1.timestamp = recovery.cookedBrief.timestamp)
    (member : entry ∈ recovery.entries userId) : entry.content.timestamp = entry.timestamp := by
  unfold MemoryShamirRecovery.entries at member
  dsimp only at member
  split at member
  · simp only [List.mem_cons, List.mem_map] at member
    rcases member with rfl | ⟨_, -, rfl⟩
    · rfl
    · rfl
  · split at member
    · cases member
    · rename_i share isShare
      simp only [List.mem_cons, List.mem_map] at member
      rcases member with rfl | rfl | ⟨_, -, rfl⟩
      · rfl
      · exact shares userId share isShare
      · rfl

theorem CertificatesLogged.dated (logged : CertificatesLogged org) {userId : UserID}
    {redacted : Bool} {topic : TopicAndDiscriminant} {entry : CertificateEntry}
    (member : entry ∈ org.view userId redacted topic) :
    entry.content.timestamp = entry.timestamp := by
  cases topic with
  | common =>
    have isEntry := mem_sortBy.mp member
    rcases List.mem_append.mp isEntry with isUser | isDevice
    · obtain ⟨user, -, isUserEntry⟩ := List.mem_flatMap.mp isUser
      exact userEntries_dated isUserEntry
    · obtain ⟨device, -, rfl⟩ := List.mem_map.mp isDevice
      rfl
  | sequester =>
    change entry ∈ org.sequesterCertificates at member
    unfold sequesterCertificates at member
    split at member
    · cases member
    · split at member
      · cases member
      · rcases List.mem_cons.mp member with rfl | isService
        · rfl
        · obtain ⟨service, -, isServiceEntry⟩ := List.mem_flatMap.mp isService
          exact serviceEntries_dated isServiceEntry
  | shamirRecovery =>
    obtain ⟨recoveries, isRecoveries, ofUser⟩ := List.mem_flatMap.mp (mem_sortBy.mp member)
    obtain ⟨recovery, isRecovery, isEntry⟩ := List.mem_flatMap.mp ofUser
    obtain ⟨⟨owner, found⟩, isItem, rfl⟩ := List.mem_map.mp isRecoveries
    exact shamirEntries_dated (logged.references.shares owner found
      (Dict.get?_eq_some_iff.mpr isItem) recovery isRecovery) isEntry
  | realm realmId =>
    cases isRealm : org.realms.get? realmId with
    | none =>
      rw [view_of_none isRealm] at member
      cases member
    | some realm =>
      rw [view_of_some isRealm, (logged.realms realmId realm isRealm).2.certificates_eq] at member
      exact realmEntries_dated (mem_sortBy.mp (List.mem_filter.mp member).1)

theorem CertificatesLogged.chronological (logged : CertificatesLogged org) (userId : UserID)
    (redacted : Bool) (topic : TopicAndDiscriminant) :
    Chronological CertificateEntry.timestamp (org.view userId redacted topic) := by
  cases topic with
  | common => exact (logged.common redacted).chronological
  | sequester => exact logged.sequester.chronological
  | shamirRecovery => exact (logged.shamir userId).chronological
  | realm realmId =>
    cases isRealm : org.realms.get? realmId with
    | none =>
      rw [view_of_none isRealm]
      exact List.Pairwise.nil
    | some realm =>
      obtain ⟨-, realmLogged⟩ := logged.realms realmId realm isRealm
      rw [view_of_some isRealm, realmLogged.certificates_eq]
      exact (realmLogged.ordered.imp fun earlier => earlier.le).filter _

/-- No device comes before its user. -/
def UsersFirst (certificates : List CertificateEntry) : Prop :=
  certificates.Pairwise fun a b => ∀ device user, a.content = .common (.device device) →
    b.content = .common (.user user) → device.userId ≠ user.userId

/-- No share comes before its brief. -/
def BriefsFirst (certificates : List CertificateEntry) : Prop :=
  certificates.Pairwise fun a b => ∀ share brief, a.content = .shamirRecovery (.share share) →
    b.content = .shamirRecovery (.brief brief) → share.timestamp ≠ brief.timestamp

theorem mem_commonEntries_device {redacted : Bool} {entry : CertificateEntry}
    {certif : DeviceCertificate} (member : entry ∈ org.commonEntries redacted)
    (isContent : entry.content = .common (.device certif)) :
    entry.timestamp = certif.timestamp ∧ entry.priority = 1 ∧
      ∃ deviceId device, org.devices.get? deviceId = some device ∧ device.cooked = certif := by
  rcases List.mem_append.mp member with isUser | isDevice
  · obtain ⟨user, -, isEntry⟩ := List.mem_flatMap.mp isUser
    simp only [userEntries, List.mem_cons, List.mem_append, List.mem_map] at isEntry
    rcases isEntry with rfl | ⟨_, -, rfl⟩ | ⟨_, -, rfl⟩
    · cases isContent
    · cases isContent
    · cases isContent
  · obtain ⟨device, isValue, rfl⟩ := List.mem_map.mp isDevice
    obtain ⟨⟨deviceId, found⟩, isItem, rfl⟩ := List.mem_map.mp isValue
    cases isContent
    exact ⟨rfl, rfl, deviceId, found, Dict.get?_eq_some_iff.mpr isItem, rfl⟩

theorem mem_commonEntries_user {redacted : Bool} {entry : CertificateEntry}
    {certif : UserCertificate} (member : entry ∈ org.commonEntries redacted)
    (isContent : entry.content = .common (.user certif)) :
    entry.timestamp = certif.timestamp ∧ entry.priority = 0 ∧
      ∃ userId user, org.users.get? userId = some user ∧ user.cooked = certif := by
  rcases List.mem_append.mp member with isUser | isDevice
  · obtain ⟨user, isValue, isEntry⟩ := List.mem_flatMap.mp isUser
    obtain ⟨⟨userId, found⟩, isItem, rfl⟩ := List.mem_map.mp isValue
    simp only [userEntries, List.mem_cons, List.mem_append, List.mem_map] at isEntry
    rcases isEntry with rfl | ⟨_, -, rfl⟩ | ⟨_, -, rfl⟩
    · cases isContent
      exact ⟨rfl, rfl, userId, found, Dict.get?_eq_some_iff.mpr isItem, rfl⟩
    · cases isContent
    · cases isContent
  · obtain ⟨device, -, rfl⟩ := List.mem_map.mp isDevice
    cases isContent

theorem CertificatesLogged.usersFirst (logged : CertificatesLogged org) (userId : UserID)
    (redacted : Bool) : UsersFirst (org.view userId redacted .common) := by
  refine (sortBy_strict (logged.common redacted).distinct).imp_of_mem ?_
  intro a b isA isB less device user isDevice isUser same
  obtain ⟨dateA, priorityA, deviceId, found, isFound, rfl⟩ :=
    mem_commonEntries_device (mem_sortBy.mp isA) isDevice
  obtain ⟨dateB, priorityB, owner, foundUser, isFoundUser, rfl⟩ :=
    mem_commonEntries_user (mem_sortBy.mp isB) isUser
  obtain ⟨itsUser, isItsUser, dated⟩ := logged.references.deviceUsers deviceId found isFound
  rw [same, logged.references.userIds owner foundUser isFoundUser, isFoundUser] at isItsUser
  cases isItsUser
  have greater : b.key < a.key := by
    apply CertificateEntry.key_lt_of_priority
    · rw [dateA, dateB]
      exact dated
    · rw [priorityA, priorityB]
      exact Nat.zero_lt_one
  exact absurd less greater.asymm

theorem MemoryShamirRecovery.mem_entries {recovery : MemoryShamirRecovery} {userId : UserID}
    {entry : CertificateEntry} (member : entry ∈ recovery.entries userId) :
    (∀ brief, entry.content = .shamirRecovery (.brief brief) → entry.priority = 0) ∧
      ∀ share, entry.content = .shamirRecovery (.share share) → entry.priority = 1 := by
  unfold MemoryShamirRecovery.entries at member
  dsimp only at member
  split at member
  · simp only [List.mem_cons, List.mem_map] at member
    rcases member with rfl | ⟨_, -, rfl⟩
    · exact ⟨fun _ _ => rfl, (fun _ other => by cases other)⟩
    · exact ⟨(fun _ other => by cases other), (fun _ other => by cases other)⟩
  · split at member
    · cases member
    · simp only [List.mem_cons, List.mem_map] at member
      rcases member with rfl | rfl | ⟨_, -, rfl⟩
      · exact ⟨fun _ _ => rfl, (fun _ other => by cases other)⟩
      · exact ⟨(fun _ other => by cases other), fun _ _ => rfl⟩
      · exact ⟨(fun _ other => by cases other), (fun _ other => by cases other)⟩

theorem CertificatesLogged.briefsFirst (logged : CertificatesLogged org) (userId : UserID)
    (redacted : Bool) : BriefsFirst (org.view userId redacted .shamirRecovery) := by
  have priorities : ∀ entry ∈ org.view userId redacted .shamirRecovery,
      (∀ brief, entry.content = .shamirRecovery (.brief brief) → entry.priority = 0) ∧
        ∀ share, entry.content = .shamirRecovery (.share share) → entry.priority = 1 := by
    intro entry member
    obtain ⟨recoveries, -, ofUser⟩ := List.mem_flatMap.mp (mem_sortBy.mp member)
    obtain ⟨recovery, -, isEntry⟩ := List.mem_flatMap.mp ofUser
    exact MemoryShamirRecovery.mem_entries isEntry
  refine (sortBy_strict (logged.shamir userId).distinct).imp_of_mem ?_
  intro a b isA isB less share brief isShare isBrief same
  have dateA := @CertificatesLogged.dated org logged userId redacted .shamirRecovery a isA
  have dateB := @CertificatesLogged.dated org logged userId redacted .shamirRecovery b isB
  rw [isShare] at dateA
  rw [isBrief] at dateB
  change share.timestamp = a.timestamp at dateA
  change brief.timestamp = b.timestamp at dateB
  have greater : b.key < a.key := by
    apply CertificateEntry.key_lt_of_priority
    · rw [← dateA, ← dateB, same]
    · rw [(priorities a isA).2 share isShare, (priorities b isB).1 brief isBrief]
      exact Nat.zero_lt_one
  exact absurd less greater.asymm

end Views

/-- The server, and what the device has received so far. -/
structure PollState where
  server : State
  received : TopicAndDiscriminant → List CertificateEntry

inductive PollEvent where
  | server (event : Event)
  | poll

/-- The date in the last certificate received. -/
def lastReceived (received : TopicAndDiscriminant → List CertificateEntry)
    (topic : TopicAndDiscriminant) : Option DateTime :=
  (received topic).getLast?.map (·.content.timestamp)

/-- The profile of the user of the device does not change from or to outsider. -/
inductive PollStep (author : DeviceID) : PollState → PollEvent → PollState → Prop where
  | server {s s' : State} {event : Event}
      {received : TopicAndDiscriminant → List CertificateEntry} (step : Step s event s')
      (sameProfile : ∀ userId userId' redacted redacted',
        s.org.viewer author = some (userId, redacted) →
          s'.org.viewer author = some (userId', redacted') → redacted' = redacted) :
      PollStep author ⟨s, received⟩ (.server event) ⟨s', received⟩
  | poll {s : State} {received : TopicAndDiscriminant → List CertificateEntry}
      {bundle : CertificatesBundle}
      (ok : s.org.getCertificatesAfter author (lastReceived received) = .ok bundle) :
      PollStep author ⟨s, received⟩ .poll ⟨s, fun topic => received topic ++ bundle.of topic⟩

/-- Only the last service is revoked. -/
def RevokesLast (s : PollState) : PollEvent → Prop
  | .server (.operation op) => LastServiceRevoked s.server.org op.kind
  | _ => True

structure PollKept (author : DeviceID) (s : PollState) : Prop where
  valid : StateValid s.server
  logged : CertificatesLogged s.server.org
  nothing : s.server.org.viewer author = none → ∀ topic, s.received topic = []
  received : ∀ userId redacted, s.server.org.viewer author = some (userId, redacted) →
    ∀ topic, Continues (s.received topic) (s.server.org.view userId redacted topic)

section Polling
variable {author : DeviceID} {org org' : MemoryOrganization}

theorem Step.logged {s s' : State} {event : Event} (valid : StateValid s)
    (logged : CertificatesLogged s.org)
    (isLast : ∀ op, event = .operation op → LastServiceRevoked s.org op.kind)
    (step : Step s event s') :
    CertificatesLogged s'.org ∧ ViewsContinue s.org s'.org ∧ Persists s.org s'.org := by
  cases step with
  | operation free ok =>
    obtain ⟨topic, -, effect⟩ := Operation.effect ok
    obtain ⟨logged', continues⟩ := logged.operation effect (isLast _ rfl)
    exact ⟨logged', continues, effect.persists⟩
  | waits => exact ⟨logged, .refl, .of_eq rfl rfl⟩
  | atOnce checked free noWebhook ok =>
    have effect := Waiting.store_effect ok
    obtain ⟨logged', continues⟩ := logged.store checked.valid effect
    exact ⟨logged', continues, effect.persists⟩
  | accepted ok =>
    have effect := Waiting.store_effect ok
    obtain ⟨logged', continues⟩ := logged.store (valid.valid _ (by simp)) effect
    exact ⟨logged', continues, effect.persists⟩
  | rejected => exact ⟨logged, .refl, .of_eq rfl rfl⟩

theorem Persists.viewer {userId : UserID} {redacted : Bool} (persists : Persists org org')
    (isViewer : org.viewer author = some (userId, redacted)) :
    ∃ redacted', org'.viewer author = some (userId, redacted') := by
  obtain ⟨device, isDevice, hasUser⟩ := Option.bind_eq_some_iff.mp isViewer
  obtain ⟨user, isUser, same⟩ := Option.map_eq_some_iff.mp hasUser
  cases same
  obtain ⟨user', isUser', -⟩ := persists.users _ user isUser
  refine ⟨decide (user'.currentProfile = .outsider), ?_⟩
  rw [MemoryOrganization.viewer, persists.devices _ device isDevice, Option.bind_some, isUser']
  rfl

theorem lastReceived_eq {received : TopicAndDiscriminant → List CertificateEntry} {userId : UserID}
    {redacted : Bool} (logged : CertificatesLogged org)
    (continues : ∀ topic, Continues (received topic) (org.view userId redacted topic))
    (topic : TopicAndDiscriminant) :
    lastReceived received topic = lastDate CertificateEntry.timestamp (received topic) := by
  unfold lastReceived lastDate
  cases isLast : (received topic).getLast? with
  | none => rfl
  | some entry =>
    obtain ⟨rest, full, -⟩ := continues topic
    have member : entry ∈ org.view userId redacted topic := by
      rw [full]
      exact List.mem_append_left _ (List.mem_of_getLast? isLast)
    exact congrArg some (logged.dated member)

/-- What was received and what a poll gives are all the certificates. -/
theorem received_append {received : TopicAndDiscriminant → List CertificateEntry} {userId : UserID}
    {redacted : Bool} (logged : CertificatesLogged org)
    (continues : ∀ topic, Continues (received topic) (org.view userId redacted topic))
    (topic : TopicAndDiscriminant) :
    received topic ++ since CertificateEntry.timestamp (lastReceived received topic)
      (org.view userId redacted topic) = org.view userId redacted topic := by
  rw [lastReceived_eq logged continues]
  apply (continues topic).append_since
  obtain ⟨rest, full, -⟩ := continues topic
  have ordered := logged.chronological userId redacted topic
  rw [full] at ordered
  exact (List.pairwise_append.mp ordered).1

theorem PollKept.step {s s' : PollState} {event : PollEvent} (kept : PollKept author s)
    (admitted : RevokesLast s event) (step : PollStep author s event s') : PollKept author s' := by
  cases step with
  | @server s s' event received taken sameProfile =>
    have isLast : ∀ op, event = .operation op → LastServiceRevoked s.org op.kind := by
      rintro op rfl
      exact admitted
    obtain ⟨logged', continues, persists⟩ := taken.logged kept.valid kept.logged isLast
    refine ⟨kept.valid.step taken, logged', ?_, ?_⟩
    · intro noViewer topic
      cases before : s.org.viewer author with
      | none => exact kept.nothing before topic
      | some found =>
        obtain ⟨redacted', isViewer'⟩ := persists.viewer before
        change s'.org.viewer author = none at noViewer
        rw [noViewer] at isViewer'
        cases isViewer'
    · intro userId redacted isViewer topic
      cases before : s.org.viewer author with
      | none =>
        have nothing := kept.nothing before topic
        change Continues (received topic) _
        change received topic = [] at nothing
        rw [nothing]
        exact Extends.nil _
      | some found =>
        obtain ⟨owner, flag⟩ := found
        obtain ⟨flag', isViewer'⟩ := persists.viewer before
        change s'.org.viewer author = some (userId, redacted) at isViewer
        have sameFlag := sameProfile owner userId flag redacted before isViewer
        rw [isViewer] at isViewer'
        cases isViewer'
        subst sameFlag
        exact (kept.received _ _ before topic).trans (continues _ _ topic)
  | @poll s received bundle ok =>
    obtain ⟨notExpired, owner, flag, isOwner⟩ := viewer_of_ok ok
    have ids : ∀ realmId realm, s.org.realms.get? realmId = some realm → realm.realmId = realmId :=
      fun realmId realm isRealm => (kept.logged.realms realmId realm isRealm).1
    obtain ⟨found, isFound, polled⟩ := getCertificatesAfter_ok notExpired kept.logged.services ids
      isOwner (lastReceived received)
    have same : found = bundle := Except.ok.inj (isFound.symm.trans ok)
    subst same
    refine ⟨kept.valid, kept.logged, ?_, ?_⟩
    · intro noViewer
      change s.org.viewer author = none at noViewer
      rw [noViewer] at isOwner
      cases isOwner
    · intro userId redacted isViewer topic
      change s.org.viewer author = some (userId, redacted) at isViewer
      rw [isOwner] at isViewer
      cases isViewer
      change Continues (received topic ++ found.of topic) _
      rw [polled topic]
      have whole := received_append kept.logged (kept.received owner flag isOwner) topic
      change received topic ++ _ = _ at whole
      rw [whole]
      exact Extends.refl _

end Polling

/-- An organization with its first user and its first device. -/
structure JustBootstrapped (org : MemoryOrganization) (user : MemoryUser) (device : MemoryDevice) :
    Prop where
  users : org.users = Dict.empty.set user.cooked.userId user
  devices : org.devices = Dict.empty.set device.cooked.deviceId device
  notRevoked : user.revoked = none
  noUpdate : user.profileUpdates = []
  sameUser : device.cooked.userId = user.cooked.userId
  sameTime : device.cooked.timestamp = user.cooked.timestamp
  common : org.lastTimestamp .common = user.cooked.timestamp
  noRealm : org.realms = .empty
  noRecovery : org.shamirRecoveries = .empty
  sequester : org.sequesterAuthority = none ∧ org.sequesterServices = none ∨
    ∃ authority raw, org.sequesterAuthority = some (authority, raw) ∧
      org.sequesterServices = some .empty ∧ org.lastTimestamp .sequester = authority.timestamp

theorem JustBootstrapped.logged {org : MemoryOrganization} {user : MemoryUser}
    {device : MemoryDevice} (start : JustBootstrapped org user device) : CertificatesLogged org := by
  have isUser : ∀ {userId found}, org.users.get? userId = some found →
      userId = user.cooked.userId ∧ found = user := by
    intro userId found isFound
    rcases Dict.found_set start.users isFound with ⟨same, rfl⟩ | ⟨-, isFound⟩
    · exact ⟨same, rfl⟩
    · cases isFound
  have entries : ∀ redacted, org.commonEntries redacted =
      [⟨user.cooked.timestamp, 0,
        if redacted then user.redactedUserCertificate else user.userCertificate,
        .common (.user user.cooked)⟩, deviceEntry redacted device] := by
    intro redacted
    rw [commonEntries, start.users, start.devices, Dict.values_set_of_absent rfl,
      Dict.values_set_of_absent rfl]
    simp [Dict.values, Dict.empty, userEntries, start.notRevoked, start.noUpdate]
  constructor
  · intro redacted
    rw [entries, start.common]
    constructor
    · intro entry member
      rcases List.mem_cons.mp member with rfl | member
      · exact le_refl _
      · rw [List.mem_singleton.mp member]
        exact start.sameTime.le
    · rw [List.pairwise_pair]
      exact (CertificateEntry.key_lt_of_priority start.sameTime.symm.le Nat.zero_lt_one).ne
  · intro userId
    rw [shamirEntries, start.noRecovery]
    exact ⟨by simp [Dict.values, Dict.empty], List.Pairwise.nil⟩
  · intro realmId realm isRealm
    rw [start.noRealm] at isRealm
    cases isRealm
  · rcases start.sequester with ⟨noAuthority, -⟩ | ⟨authority, raw, isAuthority, isServices, isLast⟩
    · rw [sequesterCertificates, noAuthority]
      exact ⟨by simp, List.Pairwise.nil⟩
    · have single : org.sequesterCertificates =
          [⟨authority.timestamp, 0, raw, .sequester (.authority authority)⟩] := by
        rw [sequesterCertificates, isAuthority, isServices]
        rfl
      rw [single, isLast]
      refine ⟨?_, List.pairwise_singleton _ _⟩
      intro entry member
      rw [List.mem_singleton.mp member]
  · rcases start.sequester with ⟨noAuthority, -⟩ | ⟨authority, raw, -, isServices, -⟩
    · rw [noAuthority]
      intro hasAuthority
      cases hasAuthority
    · rw [isServices]
      exact fun _ => rfl
  · constructor
    · intro userId found isFound
      obtain ⟨rfl, rfl⟩ := isUser isFound
      rfl
    · intro deviceId found isFound
      rcases Dict.found_set start.devices isFound with ⟨-, rfl⟩ | ⟨-, isFound⟩
      · rw [start.users, start.sameUser, Dict.get?_set_self]
        exact ⟨user, rfl, start.sameTime.symm.le⟩
      · cases isFound
    · intro userId recoveries isRecoveries
      rw [start.noRecovery] at isRecoveries
      cases isRecoveries

/-- The polls of a device give the same certificates as one poll from scratch. -/
structure PollsAgree (org : MemoryOrganization) (author : DeviceID)
    (received : TopicAndDiscriminant → List CertificateEntry) (last full : CertificatesBundle) :
    Prop where
  lastPoll : org.getCertificatesAfter author (lastReceived received) = .ok last
  fromScratch : org.getCertificatesAfter author (fun _ => none) = .ok full
  same : ∀ topic, received topic ++ last.of topic = full.of topic
  ordered : ∀ topic, Chronological (·.content.timestamp) (full.of topic)
  usersFirst : UsersFirst (full.of .common)
  briefsFirst : BriefsFirst (full.of .shamirRecovery)

/-- Incremental polls agree with a poll from scratch as long as only the last service is revoked. -/
theorem incremental_polls_agree (org : MemoryOrganization) (user : MemoryUser)
    (device : MemoryDevice) (start : JustBootstrapped org user device) (author : DeviceID)
    (s : PollState)
    (run : Run (PollStep author) RevokesLast ⟨⟨org, [], []⟩, fun _ => []⟩ s)
    (notExpired : s.server.org.isExpired = false) (found : MemoryDevice)
    (isDevice : s.server.org.devices.get? author = some found) :
    ∃ last full, PollsAgree s.server.org author s.received last full := by
  have kept : PollKept author s := by
    have first : PollKept author ⟨⟨org, [], []⟩, fun _ => []⟩ := by
      refine ⟨⟨by simp, List.Pairwise.nil⟩, start.logged, fun _ _ => rfl, ?_⟩
      intro userId redacted _ topic
      exact Extends.nil _
    apply run.keeps first
    intro s event s' kept admitted step
    exact kept.step admitted step
  obtain ⟨owner, isOwner, -⟩ := kept.logged.references.deviceUsers author found isDevice
  have isViewer : s.server.org.viewer author =
      some (found.cooked.userId, decide (owner.currentProfile = .outsider)) := by
    rw [viewer, isDevice, Option.bind_some, isOwner]
    rfl
  have ids : ∀ realmId realm, s.server.org.realms.get? realmId = some realm →
      realm.realmId = realmId :=
    fun realmId realm isRealm => (kept.logged.realms realmId realm isRealm).1
  obtain ⟨last, isLast, polled⟩ := getCertificatesAfter_ok notExpired kept.logged.services ids
    isViewer (lastReceived s.received)
  obtain ⟨full, isFull, whole⟩ := getCertificatesAfter_ok notExpired kept.logged.services ids
    isViewer fun _ => none
  simp only [since_none] at whole
  refine ⟨last, full, isLast, isFull, ?_, ?_, ?_, ?_⟩
  · intro topic
    rw [polled, whole]
    exact received_append kept.logged (kept.received _ _ isViewer) topic
  · intro topic
    rw [whole]
    refine (kept.logged.chronological _ _ topic).imp_of_mem ?_
    intro a b isA isB before
    change a.content.timestamp ≤ b.content.timestamp
    rw [kept.logged.dated isA, kept.logged.dated isB]
    exact before
  · rw [whole]
    exact kept.logged.usersFirst _ _
  · rw [whole]
    exact kept.logged.briefsFirst _ _

def firstUser : MemoryUser := ⟨⟨.root, 1, ⟨1⟩, .admin⟩, ⟨"alice"⟩, [], [], [], none⟩

def firstDevice : MemoryDevice := ⟨⟨.root, 1, ⟨1⟩, ⟨11⟩, ⟨21⟩⟩, [], []⟩

/-- A sequestered organization with its first user. -/
def sequesteredOrganization : MemoryOrganization where
  isExpired := false
  activeUsersLimit := none
  sequesterAuthority := some (⟨1, ⟨31⟩⟩, [])
  sequesterServices := some .empty
  users := Dict.empty.set ⟨1⟩ firstUser
  devices := Dict.empty.set ⟨11⟩ firstDevice
  invitations := .empty
  greetingAttempts := .empty
  realms := .empty
  atomLists := []
  shamirRecoveries := .empty
  perTopicLastTimestamp := Function.update (Function.update (fun _ => none) .common (some 1))
    .sequester (some 1)

theorem justBootstrapped_sequesteredOrganization :
    JustBootstrapped sequesteredOrganization firstUser firstDevice :=
  ⟨rfl, rfl, rfl, rfl, rfl, rfl, rfl, rfl, rfl, Or.inr ⟨_, _, rfl, rfl, rfl⟩⟩

def firstService : MemorySequesterService := ⟨⟨2, ⟨7⟩⟩, [2], .storage, none⟩

def secondService : MemorySequesterService := ⟨⟨3, ⟨8⟩⟩, [3], .storage, none⟩

/-- Two services are created. -/
def servedOrganization : MemoryOrganization :=
  (sequesteredOrganization.withService .empty ⟨2, ⟨7⟩⟩ [2] .storage).withService
    (Dict.empty.set ⟨7⟩ firstService) ⟨3, ⟨8⟩⟩ [3] .storage

/-- The device polls once the services are there. -/
theorem services_polled {admits : PollState → PollEvent → Prop}
    (creations : ∀ s certificate serviceType,
      admits s (.server (.operation (.createService certificate serviceType))))
    (polls : ∀ s, admits s .poll) :
    ∃ received, Run (PollStep ⟨11⟩) admits ⟨⟨sequesteredOrganization, [], []⟩, fun _ => []⟩
      ⟨⟨servedOrganization, [], []⟩, received⟩ ∧
        received .sequester = servedOrganization.sequesterCertificates := by
  have first : Run (PollStep ⟨11⟩) admits ⟨⟨sequesteredOrganization, [], []⟩, fun _ => []⟩
      ⟨⟨sequesteredOrganization.withService .empty ⟨2, ⟨7⟩⟩ [2] .storage, [], []⟩, fun _ => []⟩ := by
    refine .step .start (creations _ ([2], .service ⟨2, ⟨7⟩⟩ ⟨31⟩) .storage)
      (.server (.operation (by simp) rfl) ?_)
    rintro userId userId' redacted redacted' ⟨⟩ ⟨⟩
    rfl
  have second : Run (PollStep ⟨11⟩) admits ⟨⟨sequesteredOrganization, [], []⟩, fun _ => []⟩
      ⟨⟨servedOrganization, [], []⟩, fun _ => []⟩ := by
    refine first.step (creations _ ([3], .service ⟨3, ⟨8⟩⟩ ⟨31⟩) .storage)
      (.server (.operation (by simp) rfl) ?_)
    rintro userId userId' redacted redacted' ⟨⟩ ⟨⟩
    rfl
  have isViewer : servedOrganization.viewer ⟨11⟩ = some (⟨1⟩, false) := rfl
  obtain ⟨bundle, ok, polled⟩ := @getCertificatesAfter_ok servedOrganization _ _ _ rfl
    (fun _ => rfl) (fun _ _ isRealm => by cases isRealm) isViewer (lastReceived fun _ => [])
  exact ⟨_, second.step (polls _) (.poll ok), (polled .sequester).trans (since_none _)⟩

/-- The second service is revoked, which was created last. -/
def lastRevokedOrganization : MemoryOrganization :=
  servedOrganization.withRevokedService ((Dict.empty.set ⟨7⟩ firstService).set ⟨8⟩ secondService)
    secondService ⟨4, ⟨8⟩⟩ [4]

theorem sequestered_polls_agree :
    ∃ received, Run (PollStep ⟨11⟩) RevokesLast ⟨⟨sequesteredOrganization, [], []⟩, fun _ => []⟩
        ⟨⟨lastRevokedOrganization, [], []⟩, received⟩ ∧
      received .sequester = servedOrganization.sequesterCertificates ∧
      ∃ last full, PollsAgree lastRevokedOrganization ⟨11⟩ received last full := by
  obtain ⟨received, run, polled⟩ := @services_polled RevokesLast
    (fun _ _ _ certif isRevocation => by cases isRevocation) fun _ => trivial
  have served : PollStep ⟨11⟩ ⟨⟨servedOrganization, [], []⟩, received⟩
      (.server (.operation (.revokeService ([4], .revokedService ⟨4, ⟨8⟩⟩ ⟨31⟩))))
      ⟨⟨lastRevokedOrganization, [], []⟩, received⟩ := by
    refine .server (.operation (by simp) rfl) ?_
    rintro userId userId' redacted redacted' ⟨⟩ ⟨⟩
    rfl
  have last : RevokesLast ⟨⟨servedOrganization, [], []⟩, received⟩
      (.server (.operation (.revokeService ([4], .revokedService ⟨4, ⟨8⟩⟩ ⟨31⟩)))) := by
    rintro certif ⟨⟩ services ⟨⟩
    rfl
  have revoked := run.step last served
  exact ⟨received, revoked, polled, incremental_polls_agree _ firstUser firstDevice
    justBootstrapped_sequesteredOrganization ⟨11⟩ _ revoked rfl firstDevice rfl⟩

/-- The first service is revoked. -/
def revokedOrganization : MemoryOrganization :=
  servedOrganization.withRevokedService ((Dict.empty.set ⟨7⟩ firstService).set ⟨8⟩ secondService)
    firstService ⟨4, ⟨7⟩⟩ [4]

/-- The device has polled before the first of the two services is revoked. -/
theorem revocation_of_first_service :
    ¬ ∀ org user device, JustBootstrapped org user device → ∀ author s,
      Run (PollStep author) (fun _ _ => True) ⟨⟨org, [], []⟩, fun _ => []⟩ s →
        s.server.org.isExpired = false → ∀ found,
          s.server.org.devices.get? author = some found →
            ∃ last full, PollsAgree s.server.org author s.received last full := by
  intro always
  have noRealm : ∀ realmId realm, revokedOrganization.realms.get? realmId = some realm →
      realm.realmId = realmId := by
    intro realmId realm isRealm
    cases isRealm
  have isViewer : revokedOrganization.viewer ⟨11⟩ = some (⟨1⟩, false) := rfl
  obtain ⟨received, run, polled⟩ :=
    @services_polled (fun _ _ => True) (fun _ _ _ => trivial) fun _ => trivial
  have served : PollStep ⟨11⟩ ⟨⟨servedOrganization, [], []⟩, received⟩
      (.server (.operation (.revokeService ([4], .revokedService ⟨4, ⟨7⟩⟩ ⟨31⟩))))
      ⟨⟨revokedOrganization, [], []⟩, received⟩ := by
    refine .server (.operation (by simp) rfl) ?_
    rintro userId userId' redacted redacted' ⟨⟩ ⟨⟩
    rfl
  obtain ⟨last, full, agree⟩ := always _ firstUser firstDevice
    justBootstrapped_sequesteredOrganization ⟨11⟩ _ (run.step trivial served) rfl firstDevice rfl
  obtain ⟨found, isFound, whole⟩ := @getCertificatesAfter_ok revokedOrganization _ _ _ rfl
    (fun _ => rfl) noRealm isViewer fun _ => none
  obtain ⟨next, isNext, polledNext⟩ := @getCertificatesAfter_ok revokedOrganization _ _ _ rfl
    (fun _ => rfl) noRealm isViewer (lastReceived received)
  have isFull : found = full := Except.ok.inj (isFound.symm.trans agree.fromScratch)
  have isLast : next = last := Except.ok.inj (isNext.symm.trans agree.lastPoll)
  have known : lastReceived received .sequester = some 3 := by
    rw [lastReceived, polled]
    rfl
  have same := agree.same .sequester
  change received .sequester ++ last.of .sequester = _ at same
  rw [← isFull, ← isLast, whole, polledNext, known, polled, since_none] at same
  exact absurd (congrArg (List.map (·.timestamp)) same) (by decide)

end ParsecCloud.Server

import ParsecCloud.Server.ReceivedCertificates
import ParsecCloud.Server.IncrementalPoll

/- When a client sees that a realm needs nothing, its current key is held by its members and by the
   active sequester services, as long as the certificates of the services and the rotations of the
   realms are dated in their order. -/
namespace ParsecCloud.Server
open Certif Rust Runs HashMap Storage MemoryOrganization

/-- The services that have an access to a rotation. -/
def servicesWithAccess : Option (Dict SequesterServiceID (List Byte)) → Finset SequesterServiceID
  | none => ∅
  | some accesses => accesses.keys.toFinset

def MemoryOrganization.activeServiceIds (org : MemoryOrganization) : Finset SequesterServiceID :=
  (org.activeSequesterServices.map (·.cooked.serviceId)).toFinset

/-- The services with an access to the last rotation of a realm, when no certificate of a service is
    dated before it. -/
structure ServicesKept (org : MemoryOrganization) (rotation : MemoryRealmKeyRotation) : Prop where
  known : ∀ id ∈ servicesWithAccess rotation.perSequesterServiceKeysBundleAccess,
    ∃ service, org.findService id = some service
  active : ∀ id service, org.findService id = some service → service.revoked = none →
    id ∈ servicesWithAccess rotation.perSequesterServiceKeysBundleAccess ∨
      rotation.cooked.timestamp < service.cooked.timestamp
  revoked : ∀ id service revocation, org.findService id = some service →
    service.revoked = some revocation →
      id ∈ servicesWithAccess rotation.perSequesterServiceKeysBundleAccess →
        rotation.cooked.timestamp < revocation.1.timestamp

/-- What holds of the users, the services and the rotations after every step. -/
structure Served (org : MemoryOrganization) : Prop where
  keys : KeysKept org
  named : ∀ userId user certif raw, org.users.get? userId = some user →
    user.revoked = some (certif, raw) → certif.userId = userId
  members : ∀ realmId realm userId, org.realms.get? realmId = some realm →
    currentRole realm.roles userId ≠ none → ∃ user, org.users.get? userId = some user
  consistent : SequesterConsistent org
  serviceIds : ∀ id service, org.findService id = some service → service.cooked.serviceId = id
  dated : ∀ id service, org.findService id = some service →
    service.cooked.timestamp ≤ org.lastTimestamp .sequester ∧
      ∀ revocation, service.revoked = some revocation →
        revocation.1.timestamp ≤ org.lastTimestamp .sequester
  services : ∀ realmId realm rotation, org.realms.get? realmId = some realm →
    realm.keyRotations.getLast? = some rotation → ServicesKept org rotation

section Effects
variable {org org' : MemoryOrganization}

/-- Neither the services nor their topic change. -/
structure SameServices (org org' : MemoryOrganization) : Prop where
  services : org'.sequesterServices = org.sequesterServices
  authority : org'.sequesterAuthority = org.sequesterAuthority
  topic : org'.lastTimestamp .sequester = org.lastTimestamp .sequester

theorem Effect.sameServices {kind : OperationKind} {topic : TopicAndDiscriminant}
    (effect : Effect org kind topic org') (other : topic ≠ .sequester) : SameServices org org' := by
  have topics : ∀ {timestamp}, org'.perTopicLastTimestamp =
      Function.update org.perTopicLastTimestamp topic (some timestamp) →
      org'.lastTimestamp .sequester = org.lastTimestamp .sequester := by
    intro timestamp updated
    rw [lastTimestamp_update updated, if_neg other.symm]
  cases effect with
  | service => exact absurd rfl other
  | revokedService => exact absurd rfl other
  | _ => exact ⟨rfl, rfl, topics rfl⟩

theorem Effect.sequester_kind {kind : OperationKind} (effect : Effect org kind .sequester org') :
    kind = .createService ∨ ∃ certif, kind = .revokeService certif := by
  cases effect with
  | service => exact Or.inl rfl
  | revokedService => exact Or.inr ⟨_, rfl⟩

theorem StoreEffect.sameServices {call : Waiting} (effect : StoreEffect org call org') :
    SameServices org org' := by
  cases effect with
  | createVlob => exact ⟨rfl, rfl, rfl⟩
  | updateVlob => exact ⟨rfl, rfl, rfl⟩
  | @rotateKey rotation realm isRealm later =>
    refine ⟨rfl, rfl, ?_⟩
    rw [@lastTimestamp_update org (org.withRotation realm rotation) (.realm rotation.certif.realmId)
      rotation.certif.timestamp rfl, if_neg (by simp)]

theorem SameServices.findService (same : SameServices org org') (id : SequesterServiceID) :
    org'.findService id = org.findService id := by
  unfold MemoryOrganization.findService
  rw [same.services]

theorem SameServices.activeServiceIds (same : SameServices org org') :
    org'.activeServiceIds = org.activeServiceIds := by
  unfold MemoryOrganization.activeServiceIds activeSequesterServices
  rw [same.services]

theorem ServicesKept.of_same {rotation : MemoryRealmKeyRotation} (same : SameServices org org')
    (kept : ServicesKept org rotation) : ServicesKept org' rotation := by
  constructor
  · intro id member
    rw [same.findService]
    exact kept.known id member
  · intro id service isService
    rw [same.findService] at isService
    exact kept.active id service isService
  · intro id service revocation isService
    rw [same.findService] at isService
    exact kept.revoked id service revocation isService

theorem ServicesKept.congr {rotation rotation' : MemoryRealmKeyRotation}
    (certif : rotation'.cooked = rotation.cooked)
    (accesses : rotation'.perSequesterServiceKeysBundleAccess =
      rotation.perSequesterServiceKeysBundleAccess)
    (kept : ServicesKept org rotation) : ServicesKept org rotation' := by
  constructor
  · rw [accesses]
    exact kept.known
  · rw [certif, accesses]
    exact kept.active
  · rw [certif, accesses]
    exact kept.revoked

theorem Effect.lastRotation {kind : OperationKind} {topic : TopicAndDiscriminant}
    (effect : Effect org kind topic org') {realmId : VlobID} {realm' : MemoryRealm}
    {rotation' : MemoryRealmKeyRotation} (isRealm' : org'.realms.get? realmId = some realm')
    (isLast' : realm'.keyRotations.getLast? = some rotation') :
    ∃ realm rotation, org.realms.get? realmId = some realm ∧
      realm.keyRotations.getLast? = some rotation ∧ rotation'.cooked = rotation.cooked ∧
      rotation'.perSequesterServiceKeysBundleAccess =
        rotation.perSequesterServiceKeysBundleAccess := by
  have unchanged : org'.realms = org.realms → ∃ realm rotation,
      org.realms.get? realmId = some realm ∧ realm.keyRotations.getLast? = some rotation ∧
      rotation'.cooked = rotation.cooked ∧ rotation'.perSequesterServiceKeysBundleAccess =
        rotation.perSequesterServiceKeysBundleAccess := by
    intro same
    exact ⟨realm', rotation', same ▸ isRealm', isLast', rfl, rfl⟩
  -- one realm is replaced
  have replaced : ∀ {id realm₁}, org'.realms = org.realms.set id realm₁ →
      (∀ rotation', realm₁.keyRotations.getLast? = some rotation' → ∃ realm rotation,
        org.realms.get? id = some realm ∧ realm.keyRotations.getLast? = some rotation ∧
        rotation'.cooked = rotation.cooked ∧ rotation'.perSequesterServiceKeysBundleAccess =
          rotation.perSequesterServiceKeysBundleAccess) → ∃ realm rotation,
      org.realms.get? realmId = some realm ∧ realm.keyRotations.getLast? = some rotation ∧
      rotation'.cooked = rotation.cooked ∧ rotation'.perSequesterServiceKeysBundleAccess =
        rotation.perSequesterServiceKeysBundleAccess := by
    intro id realm₁ same here
    rcases Dict.found_set same isRealm' with ⟨isId, rfl⟩ | ⟨-, isRealm'⟩
    · rw [isId]
      exact here rotation' isLast'
    · exact ⟨realm', rotation', isRealm', isLast', rfl, rfl⟩
  cases effect with
  | newRealm =>
    apply replaced rfl
    intro rotation isLast
    cases isLast
  | @share certif authorUser user authorId realm rotation raw access hasAuthor other role isUser
      active isRealm allowed outsider changes later last =>
    apply replaced rfl
    intro rotation' isLast
    rw [List.getLast?_concat] at isLast
    cases isLast
    exact ⟨realm, rotation, isRealm, last, rfl, rfl⟩
  | @unshare certif authorUser user authorId realm raw hasAuthor other noRole isUser isRealm =>
    exact replaced rfl fun rotation isLast => ⟨realm, rotation, isRealm, isLast, rfl, rfl⟩
  | @rename certif authorUser authorId realm raw hasAuthor isRealm =>
    exact replaced rfl fun rotation isLast => ⟨realm, rotation, isRealm, isLast, rfl, rfl⟩
  | _ => exact unchanged rfl

theorem Effect.named {kind : OperationKind} {topic : TopicAndDiscriminant}
    (effect : Effect org kind topic org')
    (named : ∀ userId user certif raw, org.users.get? userId = some user →
      user.revoked = some (certif, raw) → certif.userId = userId) :
    ∀ userId user certif raw, org'.users.get? userId = some user →
      user.revoked = some (certif, raw) → certif.userId = userId := by
  have replaced : ∀ {id user₁}, org'.users = org.users.set id user₁ →
      (∀ certif raw, user₁.revoked = some (certif, raw) → certif.userId = id) →
      ∀ userId user certif raw, org'.users.get? userId = some user →
        user.revoked = some (certif, raw) → certif.userId = userId := by
    intro id user₁ same here userId user certif raw isUser
    rcases Dict.found_set same isUser with ⟨isId, rfl⟩ | ⟨-, isUser⟩
    · rw [isId]
      exact here certif raw
    · exact named userId user certif raw isUser
  cases effect with
  | user =>
    apply replaced rfl
    intro certif raw isRevoked
    cases isRevoked
  | revocation =>
    apply replaced rfl
    intro certif raw isRevoked
    cases isRevoked
    rfl
  | update raw hasAuthor admin other isTarget =>
    apply replaced rfl
    intro certif raw isRevoked
    exact named _ _ certif raw isTarget isRevoked
  | _ => exact named

theorem Effect.membersKnown {kind : OperationKind} {topic : TopicAndDiscriminant}
    (effect : Effect org kind topic org')
    (known : ∀ realmId realm userId, org.realms.get? realmId = some realm →
      currentRole realm.roles userId ≠ none → ∃ user, org.users.get? userId = some user) :
    ∀ realmId realm userId, org'.realms.get? realmId = some realm →
      currentRole realm.roles userId ≠ none → ∃ user, org'.users.get? userId = some user := by
  have persists : ∀ {userId}, (∃ user, org.users.get? userId = some user) →
      ∃ user, org'.users.get? userId = some user := by
    rintro userId ⟨user, isUser⟩
    obtain ⟨user', isUser', -⟩ := effect.persists.users userId user isUser
    exact ⟨user', isUser'⟩
  have unchanged : org'.realms = org.realms → ∀ realmId realm userId,
      org'.realms.get? realmId = some realm → currentRole realm.roles userId ≠ none →
        ∃ user, org'.users.get? userId = some user := by
    intro same realmId realm userId isRealm hasRole
    rw [same] at isRealm
    exact persists (known realmId realm userId isRealm hasRole)
  have replaced : ∀ {id realm₁}, org'.realms = org.realms.set id realm₁ →
      (∀ userId, currentRole realm₁.roles userId ≠ none →
        ∃ user, org.users.get? userId = some user) → ∀ realmId realm userId,
      org'.realms.get? realmId = some realm → currentRole realm.roles userId ≠ none →
        ∃ user, org'.users.get? userId = some user := by
    intro id realm₁ same here realmId realm userId isRealm hasRole
    rcases Dict.found_set same isRealm with ⟨-, rfl⟩ | ⟨-, isRealm⟩
    · exact persists (here userId hasRole)
    · exact persists (known realmId realm userId isRealm hasRole)
  -- the roles after one more
  have added : ∀ {roles : Roles} {certif : RealmRoleCertificate} {raw : List Byte},
      (∀ userId, currentRole roles userId ≠ none → ∃ user, org.users.get? userId = some user) →
      (certif.role ≠ none → ∃ user, org.users.get? certif.userId = some user) →
      ∀ userId, currentRole (roles ++ [(certif, raw)]) userId ≠ none →
        ∃ user, org.users.get? userId = some user := by
    intro roles certif raw before here userId hasRole
    rw [currentRole_append] at hasRole
    split at hasRole
    · rename_i same
      exact same ▸ here hasRole
    · exact before userId hasRole
  cases effect with
  | @newRealm certif authorUser now raw hasAuthor =>
    obtain ⟨-, device, -, -, isUser, -⟩ := hasAuthor
    apply replaced rfl
    refine @added [] certif raw ?_ fun _ => ⟨authorUser, isUser⟩
    simp [currentRole]
  | @share certif authorUser user authorId realm rotation raw access hasAuthor other role isUser
      active isRealm =>
    apply replaced rfl
    exact added (fun userId => known _ realm userId isRealm) fun _ => ⟨user, isUser⟩
  | @unshare certif authorUser user authorId realm raw hasAuthor other noRole isUser isRealm =>
    apply replaced rfl
    exact added (fun userId => known _ realm userId isRealm) fun _ => ⟨user, isUser⟩
  | @rename certif authorUser authorId realm raw hasAuthor isRealm =>
    exact replaced rfl fun userId => known _ realm userId isRealm
  | _ => exact unchanged rfl

end Effects

/-- The date of the certificate of a sequester operation. -/
def certificateDate? : SignedSequester → Option DateTime
  | .malformed _ => none
  | .authority certif _ => some certif.timestamp
  | .service certif _ => some certif.timestamp
  | .revokedService certif _ => some certif.timestamp

def Operation.sequesterDate? : Operation → Option DateTime
  | .createService certificate _ => certificateDate? certificate.2
  | .revokeService certificate => certificateDate? certificate.2
  | _ => none

/-- The certificates of the services come after the rotations of all the realms, and a rotation is
    not dated before the last certificate of the services. -/
def Causal (s : State) : Event → Prop
  | .operation op => ∀ date, op.sequesterDate? = some date → ∀ realmId realm,
      s.org.realms.get? realmId = some realm → realm.AfterRotation date
  | .request _ (.rotateKey rotation) => s.org.lastTimestamp .sequester ≤ rotation.certif.timestamp
  | .accepted (.rotateKey rotation) => s.org.lastTimestamp .sequester ≤ rotation.certif.timestamp
  | _ => True

namespace Served
variable {org org' : MemoryOrganization} (served : Served org)
include served

theorem of_sameServices (same : SameServices org org') (keys : KeysKept org')
    (named : ∀ userId user certif raw, org'.users.get? userId = some user →
      user.revoked = some (certif, raw) → certif.userId = userId)
    (members : ∀ realmId realm userId, org'.realms.get? realmId = some realm →
      currentRole realm.roles userId ≠ none → ∃ user, org'.users.get? userId = some user)
    (rotations : ∀ realmId realm rotation, org'.realms.get? realmId = some realm →
      realm.keyRotations.getLast? = some rotation → ServicesKept org rotation) : Served org' := by
  refine ⟨keys, named, members, ?_, ?_, ?_, ?_⟩
  · unfold SequesterConsistent
    rw [same.services, same.authority]
    exact served.consistent
  · intro id service isService
    rw [same.findService] at isService
    exact served.serviceIds id service isService
  · intro id service isService
    rw [same.findService] at isService
    rw [same.topic]
    exact served.dated id service isService
  · intro realmId realm rotation isRealm isLast
    exact (rotations realmId realm rotation isRealm isLast).of_same same

theorem keptRotations {kind : OperationKind} {topic : TopicAndDiscriminant}
    (effect : Effect org kind topic org') {realmId : VlobID} {realm : MemoryRealm}
    {rotation : MemoryRealmKeyRotation} (isRealm : org'.realms.get? realmId = some realm)
    (isLast : realm.keyRotations.getLast? = some rotation) : ServicesKept org rotation := by
  obtain ⟨realm₀, rotation₀, isRealm₀, isLast₀, certif, accesses⟩ :=
    effect.lastRotation isRealm isLast
  exact (served.services realmId realm₀ rotation₀ isRealm₀ isLast₀).congr certif accesses

theorem other {kind : OperationKind} {topic : TopicAndDiscriminant}
    (effect : Effect org kind topic org') (other : topic ≠ .sequester) : Served org' :=
  served.of_sameServices (effect.sameServices other) (served.keys.operation effect)
    (effect.named served.named) (effect.membersKnown served.members)
    fun _ _ _ isRealm isLast => served.keptRotations effect isRealm isLast

omit served in
theorem findService_set {services : Dict SequesterServiceID MemorySequesterService}
    {id : SequesterServiceID} {service : MemorySequesterService}
    (isServices : org.sequesterServices = some services)
    (updated : org'.sequesterServices = some (services.set id service)) (other : SequesterServiceID) :
    org'.findService other = if other = id then some service else org.findService other := by
  rw [findService, findService, isServices, updated, Option.bind_some, Option.bind_some,
    Dict.get?_set]

theorem setService {services : Dict SequesterServiceID MemorySequesterService}
    {id : SequesterServiceID} {service : MemorySequesterService} {date : DateTime}
    (isServices : org.sequesterServices = some services)
    (updated : org' = { org.withLastTimestamp .sequester date with
      sequesterServices := some (services.set id service) })
    (later : org.lastTimestamp .sequester < date) (sameId : service.cooked.serviceId = id)
    (dated : service.cooked.timestamp ≤ date ∧
      ∀ revocation, service.revoked = some revocation → revocation.1.timestamp ≤ date)
    (kept : ∀ rotation, ServicesKept org rotation → rotation.cooked.timestamp < date →
      (service.revoked = none →
        id ∈ servicesWithAccess rotation.perSequesterServiceKeysBundleAccess ∨
          rotation.cooked.timestamp < service.cooked.timestamp) ∧
      ∀ revocation, service.revoked = some revocation →
        id ∈ servicesWithAccess rotation.perSequesterServiceKeysBundleAccess →
          rotation.cooked.timestamp < revocation.1.timestamp)
    (causal : ∀ realmId realm, org.realms.get? realmId = some realm → realm.AfterRotation date) :
    Served org' := by
  have found := @findService_set org org' services id service isServices (by rw [updated])
  have topic : org'.lastTimestamp .sequester = date := by
    rw [@lastTimestamp_update org org' .sequester date (by rw [updated]; rfl), if_pos rfl]
  have realms : org'.realms = org.realms := by rw [updated]; rfl
  have users : org'.users = org.users := by rw [updated]; rfl
  refine ⟨?_, ?_, ?_, ?_, ?_, ?_, ?_⟩
  · apply served.keys.sameRealms realms
    intro realmId
    rw [@lastTimestamp_update org org' .sequester date (by rw [updated]; rfl), if_neg (by simp)]
  · rw [users]
    exact served.named
  · rw [users, realms]
    exact served.members
  · have before := served.consistent
    unfold SequesterConsistent at before ⊢
    rw [isServices] at before
    rw [updated]
    exact before
  · intro other service' isService
    rw [found] at isService
    split at isService
    · rename_i same
      cases isService
      rw [same]
      exact sameId
    · exact served.serviceIds other service' isService
  · intro other service' isService
    rw [found] at isService
    rw [topic]
    split at isService
    · cases isService
      exact dated
    · obtain ⟨created, revoked⟩ := served.dated other service' isService
      exact ⟨created.trans later.le, fun revocation isRevoked =>
        (revoked revocation isRevoked).trans later.le⟩
  · intro realmId realm rotation isRealm isLast
    rw [realms] at isRealm
    have before := served.services realmId realm rotation isRealm isLast
    have after : rotation.cooked.timestamp < date := by
      apply causal realmId realm isRealm
      rw [MemoryRealm.rotations, List.getLast?_map, isLast]
      rfl
    obtain ⟨active, revoked⟩ := kept rotation before after
    constructor
    · intro other member
      obtain ⟨service', isService⟩ := before.known other member
      rw [found]
      split
      · exact ⟨service, rfl⟩
      · exact ⟨service', isService⟩
    · intro other service' isService
      rw [found] at isService
      split at isService
      · rename_i same
        cases isService
        rw [same]
        exact active
      · exact before.active other service' isService
    · intro other service' revocation isService
      rw [found] at isService
      split at isService
      · rename_i same
        cases isService
        rw [same]
        exact revoked revocation
      · exact before.revoked other service' revocation isService

theorem operation {op : Operation} {topic : TopicAndDiscriminant} (ok : op.run org = .ok org')
    (effect : Effect org op.kind topic org')
    (causal : ∀ date, op.sequesterDate? = some date → ∀ realmId realm,
      org.realms.get? realmId = some realm → realm.AfterRotation date) : Served org' := by
  by_cases other : topic = .sequester
  · cases op with
    | createService certificate serviceType =>
      obtain ⟨services, certif, signedBy, content, isServices, isNew, later, rfl⟩ :=
        createService_ok ok
      apply @setService _ _ served services certif.serviceId ⟨certif, certificate.1, serviceType, none⟩
        certif.timestamp isServices rfl later rfl ⟨le_refl _, by simp⟩
      · intro rotation kept after
        exact ⟨fun _ => Or.inr after, by simp⟩
      · exact causal certif.timestamp (by simp [Operation.sequesterDate?, content, certificateDate?])
    | revokeService certificate =>
      obtain ⟨services, service, certif, signedBy, content, isServices, isService, notRevoked, later,
        rfl⟩ := revokeService_ok ok
      have isFound : org.findService certif.serviceId = some service := by
        rw [findService, isServices]
        exact isService
      obtain ⟨created, -⟩ := served.dated _ service isFound
      apply @setService _ _ served services certif.serviceId
        { service with revoked := some (certif, certificate.1) } certif.timestamp isServices rfl later
        (served.serviceIds _ service isFound)
      · refine ⟨created.trans later.le, ?_⟩
        intro revocation same
        cases same
        exact le_refl _
      · intro rotation kept after
        refine ⟨by simp, ?_⟩
        intro revocation same _
        cases same
        exact after
      · exact causal certif.timestamp (by simp [Operation.sequesterDate?, content, certificateDate?])
    | _ =>
      subst other
      rcases effect.sequester_kind with same | ⟨certif, same⟩
      · cases same
      · cases same
  · exact served.other effect other

theorem mem_activeServiceIds {id : SequesterServiceID} : id ∈ org.activeServiceIds ↔
    ∃ service, org.findService id = some service ∧ service.revoked = none := by
  unfold MemoryOrganization.activeServiceIds activeSequesterServices
  cases isServices : org.sequesterServices with
  | none => simp [findService, isServices]
  | some services =>
    simp only [List.mem_toFinset, List.mem_map, List.mem_filter, Bool.not_eq_true']
    constructor
    · rintro ⟨service, ⟨isService, active⟩, rfl⟩
      obtain ⟨id, isFound⟩ := Dict.get?_of_mem_values isService
      have found : org.findService id = some service := by
        rw [findService, isServices]
        exact isFound
      rw [served.serviceIds id service found]
      exact ⟨service, found, by simpa [MemorySequesterService.isRevoked] using active⟩
    · rintro ⟨service, found, active⟩
      have isFound : services.get? id = some service := by
        rw [findService, isServices] at found
        exact found
      exact ⟨service, ⟨Dict.mem_values_of_get? isFound,
        by simpa [MemorySequesterService.isRevoked] using active⟩, served.serviceIds id service found⟩

theorem checkSequesterAccesses_ok {accesses : Option (Dict SequesterServiceID (List Byte))} {done : Unit}
    (ok : org.checkSequesterAccesses accesses = .ok done) :
    servicesWithAccess accesses = org.activeServiceIds := by
  have consistent := served.consistent
  unfold SequesterConsistent at consistent
  unfold checkSequesterAccesses at ok
  split at ok
  · cases accesses with
    | none => cases ok
    | some accesses =>
      rw [refuse_eq_ok, decide_eq_false_iff_not, not_not] at ok
      exact ok.symm
  · rename_i noAuthority
    rw [refuse_eq_ok, Option.isSome_eq_false_iff, Option.isNone_iff_eq_none] at ok
    rw [ok]
    ext id
    rw [served.mem_activeServiceIds]
    have noServices : org.sequesterServices = none := by
      rw [Bool.not_eq_true] at noAuthority
      rw [noAuthority] at consistent
      simpa using consistent.symm
    simp [servicesWithAccess, findService, noServices]

theorem rotateKeyCheck_services {now : DateTime} {author : DeviceID} {key : VerifyKey}
    {certificate : Uploaded RealmKeyRotationCertificate} {accesses : Dict UserID (List Byte)}
    {keysBundle : List Byte} {sequesterAccesses : Option (Dict SequesterServiceID (List Byte))}
    {rotation : WaitingRotation}
    (ok : org.rotateKeyCheck now author key certificate accesses keysBundle sequesterAccesses =
      .ok rotation) :
    servicesWithAccess rotation.sequesterAccesses = org.activeServiceIds := by
  unfold rotateKeyCheck at ok
  obtain ⟨_, -, ok⟩ := bind_eq_ok.mp ok
  obtain ⟨certif, -, ok⟩ := bind_eq_ok.mp ok
  obtain ⟨realm, -, ok⟩ := bind_eq_ok.mp ok
  obtain ⟨_, -, ok⟩ := bind_eq_ok.mp ok
  obtain ⟨_, -, ok⟩ := bind_eq_ok.mp ok
  obtain ⟨_, -, ok⟩ := bind_eq_ok.mp ok
  obtain ⟨_, checked, ok⟩ := bind_eq_ok.mp ok
  cases ok
  exact served.checkSequesterAccesses_ok checked

theorem servicesKept_of_rotation {rotation : MemoryRealmKeyRotation}
    (accesses : servicesWithAccess rotation.perSequesterServiceKeysBundleAccess =
      org.activeServiceIds) : ServicesKept org rotation := by
  constructor
  · intro id member
    rw [accesses, served.mem_activeServiceIds] at member
    obtain ⟨service, isService, -⟩ := member
    exact ⟨service, isService⟩
  · intro id service isService active
    rw [accesses, served.mem_activeServiceIds]
    exact Or.inl ⟨service, isService, active⟩
  · intro id service revocation isService isRevoked member
    rw [accesses, served.mem_activeServiceIds] at member
    obtain ⟨other, isOther, active⟩ := member
    rw [isService] at isOther
    cases isOther
    rw [isRevoked] at active
    cases active

theorem store {call : Waiting} (valid : call.Valid org) (effect : StoreEffect org call org')
    (accesses : ∀ rotation, call = .rotateKey rotation →
      servicesWithAccess rotation.sequesterAccesses = org.activeServiceIds) : Served org' := by
  -- one realm is replaced
  have replaced : ∀ {id realm₀ realm₁}, org.realms.get? id = some realm₀ →
      org'.realms = org.realms.set id realm₁ → org'.users = org.users →
      realm₁.roles = realm₀.roles →
      (∀ rotation, realm₁.keyRotations.getLast? = some rotation → ServicesKept org rotation) →
      Served org' := by
    intro id realm₀ realm₁ isRealm₀ realms users roles rotations
    apply served.of_sameServices effect.sameServices (served.keys.store valid effect)
    · rw [users]
      exact served.named
    · intro realmId realm userId isRealm hasRole
      rw [users]
      rcases Dict.found_set realms isRealm with ⟨-, rfl⟩ | ⟨-, isRealm⟩
      · rw [roles] at hasRole
        exact served.members id realm₀ userId isRealm₀ hasRole
      · exact served.members realmId realm userId isRealm hasRole
    · intro realmId realm rotation isRealm isLast
      rcases Dict.found_set realms isRealm with ⟨-, rfl⟩ | ⟨-, isRealm⟩
      · exact rotations rotation isLast
      · exact served.services realmId realm rotation isRealm isLast
  cases effect with
  | createVlob isRealm =>
    exact replaced isRealm rfl rfl rfl fun rotation isLast =>
      served.services _ _ rotation isRealm isLast
  | updateVlob isRealm =>
    exact replaced isRealm rfl rfl rfl fun rotation isLast =>
      served.services _ _ rotation isRealm isLast
  | @rotateKey rotation realm isRealm later =>
    apply replaced isRealm rfl rfl rfl
    intro rotation' isLast
    rw [List.getLast?_concat] at isLast
    cases isLast
    exact served.servicesKept_of_rotation (accesses rotation rfl)

end Served

/-- The calls that wait were checked against the services, which they lock. -/
structure ServedState (s : State) : Prop where
  valid : StateValid s
  served : Served s.org
  waiting : ∀ rotation, .rotateKey rotation ∈ s.waiting →
    servicesWithAccess rotation.sequesterAccesses = s.org.activeServiceIds

theorem Request.Checked.services {org : MemoryOrganization} {request : Request}
    {rotation : WaitingRotation} (served : Served org)
    (checked : request.Checked org (.rotateKey rotation)) :
    servicesWithAccess rotation.sequesterAccesses = org.activeServiceIds := by
  cases checked with
  | rotateKey ok => exact served.rotateKeyCheck_services ok

theorem ServedState.step {s s' : State} {event : Event} (state : ServedState s)
    (causal : Causal s event) (step : Step s event s') : ServedState s' := by
  have valid := state.valid.step step
  cases step with
  | @operation org org' waiting succeeded op free ok =>
    obtain ⟨topic, isTopic, effect⟩ := Operation.effect ok
    refine ⟨valid, state.served.operation ok effect causal, ?_⟩
    intro rotation member
    have notSequester : topic ≠ .sequester := by
      rintro rfl
      exact free .sequester isTopic _ member (Or.inr (Or.inr ⟨rfl, rfl⟩))
    rw [(effect.sameServices notSequester).activeServiceIds]
    exact state.waiting rotation member
  | @waits org waiting succeeded request call checked free webhooks =>
    refine ⟨valid, state.served, ?_⟩
    intro rotation member
    rcases List.mem_append.mp member with isOld | isNew
    · exact state.waiting rotation isOld
    · rw [List.mem_singleton] at isNew
      subst isNew
      exact checked.services state.served
  | @atOnce org org' waiting succeeded request call checked free noWebhook ok =>
    have effect := Waiting.store_effect ok
    refine ⟨valid, state.served.store checked.valid effect ?_, ?_⟩
    · rintro rotation rfl
      exact checked.services state.served
    · intro rotation member
      rw [effect.sameServices.activeServiceIds]
      exact state.waiting rotation member
  | @accepted org org' before after succeeded call ok =>
    have effect := Waiting.store_effect ok
    refine ⟨valid, state.served.store (state.valid.valid call (by simp)) effect ?_, ?_⟩
    · rintro rotation rfl
      exact state.waiting rotation (by simp)
    · intro rotation member
      rw [effect.sameServices.activeServiceIds]
      apply state.waiting rotation
      exact ((List.sublist_cons_self call after).append_left before).subset member
  | @rejected org before after succeeded call =>
    refine ⟨valid, state.served, ?_⟩
    intro rotation member
    apply state.waiting rotation
    exact ((List.sublist_cons_self call after).append_left before).subset member

end ParsecCloud.Server

import ParsecCloud.Server.RealmNeeds

/- The needs of a realm in every state that the server reaches, and after its revoked users are
   unshared and its key is rotated. -/
namespace ParsecCloud.Server
open Certif Rust Runs HashMap Storage MemoryOrganization

/-- The users with an access to a rotation are members that are not revoked; the services with an
    access are those that are not revoked. -/
structure KeyHeld (org : MemoryOrganization) (realm : MemoryRealm)
    (rotation : MemoryRealmKeyRotation) : Prop where
  users : ∀ userId accesses, rotation.perParticipantKeysBundleAccesses.get? userId = some accesses →
    realm.getCurrentRoleFor userId ≠ none ∧
      ∃ user, org.users.get? userId = some user ∧ user.isRevoked = false
  services : ∀ id, id ∈ servicesWithAccess rotation.perSequesterServiceKeysBundleAccess ↔
    ∃ service, org.findService id = some service ∧ service.isRevoked = false

section Held
variable {roles : Roles} {userId : UserID} {date : DateTime}

/-- A user that has lost its role since a date has a certificate that says so after it. -/
theorem lost_role {role : RealmRole} (had : roleAt roles userId date = some role)
    (lost : currentRole roles userId = none) :
    ∃ certif ∈ roles, certif.1.role = none ∧ date < certif.1.timestamp := by
  induction roles using List.reverseRecOn with
  | nil => cases had
  | append_singleton rest last ih =>
    obtain ⟨certif, raw⟩ := last
    rw [currentRole_append] at lost
    by_cases later : date < certif.timestamp
    · rw [roleAt_append later] at had
      split at lost
      · exact ⟨(certif, raw), by simp, lost, later⟩
      · obtain ⟨found, member, noRole, after⟩ := ih had lost
        exact ⟨found, by simp [member], noRole, after⟩
    · rw [roleAt, List.filter_append, List.filter_singleton, decide_eq_true (not_lt.mp later)] at had
      simp only [cond_true] at had
      rw [currentRole_append] at had
      split at lost
      · rename_i same
        rw [if_pos same, lost] at had
        cases had
      · rename_i different
        rw [if_neg different] at had
        obtain ⟨found, member, noRole, after⟩ := ih had lost
        exact ⟨found, by simp [member], noRole, after⟩

variable {org : MemoryOrganization} {realmId : VlobID} {realm : MemoryRealm}
  {rotation : MemoryRealmKeyRotation}

theorem lastRotation_cooked (isLast : realm.keyRotations.getLast? = some rotation) :
    realm.rotations.getLast? = some rotation.cooked := by
  rw [MemoryRealm.rotations, List.getLast?_map, isLast]
  rfl

theorem afterRotation_iff (isLast : realm.keyRotations.getLast? = some rotation) :
    realm.AfterRotation date ↔ rotation.cooked.timestamp < date := by
  unfold MemoryRealm.AfterRotation
  rw [lastRotation_cooked isLast]
  simp

/-- Whoever has an access to the last rotation and no role any more has lost it after. -/
theorem RealmKeys.unshared {last : DateTime} (keys : RealmKeys last realm)
    (isLast : realm.keyRotations.getLast? = some rotation) {accesses : List (DateTime × List Byte)}
    (hasAccess : rotation.perParticipantKeysBundleAccesses.get? userId = some accesses)
    (noRole : realm.getCurrentRoleFor userId = none) :
    ∃ role ∈ realm.roles, role.1.role = none ∧ realm.AfterRotation role.1.timestamp := by
  obtain ⟨front, split⟩ := List.getLast?_eq_some_iff.mp isLast
  have found : realm.keyRotations[front.length]? = some rotation := by
    rw [split, List.getElem?_concat_length]
  obtain ⟨date, role, since, -, -, had⟩ := keys.onlyMembers _ rotation found userId accesses hasAccess
  obtain ⟨certif, member, isNone, after⟩ := lost_role had noRole
  exact ⟨certif, member, isNone, (afterRotation_iff isLast).mpr (lt_of_le_of_lt since after)⟩

theorem Served.keyHeld (served : Served org) (isRealm : org.realms.get? realmId = some realm)
    (isLast : realm.keyRotations.getLast? = some rotation) (nothing : NothingNeeded org realm) :
    KeyHeld org realm rotation := by
  have kept := served.services realmId realm rotation isRealm isLast
  constructor
  · intro userId accesses hasAccess
    have hasRole : realm.getCurrentRoleFor userId ≠ none := by
      intro noRole
      obtain ⟨role, member, isNone, after⟩ :=
        (served.keys realmId realm isRealm).unshared isLast hasAccess noRole
      exact nothing.unshared role member isNone after
    obtain ⟨user, isUser⟩ := served.members realmId realm userId isRealm hasRole
    exact ⟨hasRole, user, isUser, nothing.members userId hasRole user isUser⟩
  · intro id
    constructor
    · intro member
      obtain ⟨service, isService⟩ := kept.known id member
      refine ⟨service, isService, ?_⟩
      rw [← Bool.not_eq_true]
      intro isRevoked
      obtain ⟨revocation, revoked⟩ := Option.isSome_iff_exists.mp isRevoked
      apply nothing.revoked id service revocation isService revoked
      exact (afterRotation_iff isLast).mpr (kept.revoked id service revocation isService revoked member)
    · rintro ⟨service, isService, active⟩
      have notRevoked : service.revoked = none := by
        simpa [MemorySequesterService.isRevoked] using active
      rcases kept.active id service isService notRevoked with member | later
      · exact member
      · exact absurd ((afterRotation_iff isLast).mpr later) (nothing.created id service isService)

theorem Served.needs (served : Served org) (isRealm : org.realms.get? realmId = some realm)
    {order : HashOrder UserID} {redacted : Bool} {storage : Storage}
    (received : ReceivedAll org redacted realmId storage) :
    ∃ needs, getRealmNeeds order storage realmId = .ok needs ∧
      (needs = .nothing ↔ NothingNeeded org realm) ∧
      ∀ index users, needs = .unshareThenKeyRotation index users → RevokedMembers org realm users :=
  received.needs served.consistent served.named isRealm (served.keys realmId realm isRealm).rolesOrdered
    (served.keys realmId realm isRealm).ordered

end Held

section Remedy

def Operation.UnsharesUser (realmId : VlobID) (userId : UserID) : Operation → Prop
  | .unshareRealm _ _ _ certificate =>
    ∃ certif signedBy, certificate.signed = .certificate certif signedBy ∧
      certif.realmId = realmId ∧ certif.userId = userId
  | _ => False

/-- The users are unshared one after the other, with any steps but revocations of users between. -/
inductive Unshares (realmId : VlobID) : Finset UserID → State → State → Prop where
  | done {s : State} : Unshares realmId ∅ s s
  | unshare {users : Finset UserID} {userId : UserID} {op : Operation} {s s' s'' : State}
      (member : userId ∈ users) (unshares : op.UnsharesUser realmId userId)
      (causal : Causal s (.operation op)) (step : Step s (.operation op) s')
      (rest : Unshares realmId (users.erase userId) s' s'') : Unshares realmId users s s''
  | other {users : Finset UserID} {event : Event} {s s' s'' : State}
      (noRevocation : NoRevocation s event) (causal : Causal s event) (step : Step s event s')
      (rest : Unshares realmId users s' s'') : Unshares realmId users s s''

/-- The event stores a rotation of the realm. -/
def Event.Rotates (s : State) (realmId : VlobID) : Event → Prop
  | .request _ (.rotateKey rotation) =>
    s.org.callsWebhooks = false ∧ rotation.certif.realmId = realmId
  | .accepted (.rotateKey rotation) => rotation.certif.realmId = realmId
  | _ => False

/-- The members of the realm that are revoked are among these users. -/
def RevokedWithin (org : MemoryOrganization) (realmId : VlobID) (users : Finset UserID) : Prop :=
  ∀ realm userId user, org.realms.get? realmId = some realm → currentRole realm.roles userId ≠ none →
    org.users.get? userId = some user → user.isRevoked = true → userId ∈ users

variable {org org' : MemoryOrganization} {realmId : VlobID} {users : Finset UserID}

theorem Effect.stillActive {kind : OperationKind} {topic : TopicAndDiscriminant}
    (effect : Effect org kind topic org') (notRevocation : ∀ certif, kind ≠ .revokeUser certif)
    {userId : UserID} {user' : MemoryUser} (isUser' : org'.users.get? userId = some user')
    (isRevoked : user'.isRevoked = true) :
    ∃ user, org.users.get? userId = some user ∧ user.isRevoked = true := by
  cases effect with
  | user =>
    change (org.users.set _ _).get? userId = _ at isUser'
    rcases Dict.found_set rfl isUser' with ⟨-, rfl⟩ | ⟨-, isUser'⟩
    · cases isRevoked
    · exact ⟨user', isUser', isRevoked⟩
  | revocation => exact absurd rfl (notRevocation _)
  | @update certif target authorUser authorId raw hasAuthor admin other isTarget active =>
    change (org.users.set _ _).get? userId = _ at isUser'
    rcases Dict.found_set rfl isUser' with ⟨-, rfl⟩ | ⟨-, isUser'⟩
    · simp [MemoryUser.isRevoked, active] at isRevoked
    · exact ⟨user', isUser', isRevoked⟩
  | _ => exact ⟨user', isUser', isRevoked⟩

theorem Effect.givenRole {kind : OperationKind} {topic : TopicAndDiscriminant}
    (effect : Effect org kind topic org') {realm' : MemoryRealm} {userId : UserID}
    (isRealm' : org'.realms.get? realmId = some realm')
    (hasRole : currentRole realm'.roles userId ≠ none) :
    (∃ realm, org.realms.get? realmId = some realm ∧ currentRole realm.roles userId ≠ none) ∨
      ∃ user, org.users.get? userId = some user ∧ user.revoked = none := by
  have replaced : ∀ {id realm₁}, org'.realms = org.realms.set id realm₁ →
      (currentRole realm₁.roles userId ≠ none →
        (∃ realm, org.realms.get? id = some realm ∧ currentRole realm.roles userId ≠ none) ∨
          ∃ user, org.users.get? userId = some user ∧ user.revoked = none) →
      (∃ realm, org.realms.get? realmId = some realm ∧ currentRole realm.roles userId ≠ none) ∨
        ∃ user, org.users.get? userId = some user ∧ user.revoked = none := by
    intro id realm₁ same here
    rcases Dict.found_set same isRealm' with ⟨isId, rfl⟩ | ⟨-, isRealm'⟩
    · rw [isId]
      exact here hasRole
    · exact Or.inl ⟨realm', isRealm', hasRole⟩
  cases effect with
  | @newRealm certif authorUser now raw hasAuthor =>
    obtain ⟨-, device, -, -, isUser, active⟩ := hasAuthor
    apply replaced rfl
    intro hasRole
    change currentRole ([] ++ [(certif, raw)]) userId ≠ none at hasRole
    rw [currentRole_append] at hasRole
    split at hasRole
    · rename_i same
      exact Or.inr ⟨authorUser, same ▸ isUser, active⟩
    · exact absurd rfl hasRole
  | @share certif authorUser user authorId realm rotation raw access hasAuthor other role isUser
      active isRealm =>
    apply replaced rfl
    intro hasRole
    rw [currentRole_append] at hasRole
    split at hasRole
    · rename_i same
      exact Or.inr ⟨user, same ▸ isUser, active⟩
    · exact Or.inl ⟨realm, isRealm, hasRole⟩
  | @unshare certif authorUser user authorId realm raw hasAuthor other noRole isUser isRealm =>
    apply replaced rfl
    intro hasRole
    rw [currentRole_append] at hasRole
    split at hasRole
    · exact absurd noRole hasRole
    · exact Or.inl ⟨realm, isRealm, hasRole⟩
  | @rename certif authorUser authorId realm raw hasAuthor isRealm =>
    exact replaced rfl fun hasRole => Or.inl ⟨realm, isRealm, hasRole⟩
  | _ => exact Or.inl ⟨realm', isRealm', hasRole⟩

theorem RevokedWithin.operation {kind : OperationKind} {topic : TopicAndDiscriminant}
    (within : RevokedWithin org realmId users) (effect : Effect org kind topic org')
    (notRevocation : ∀ certif, kind ≠ .revokeUser certif) : RevokedWithin org' realmId users := by
  intro realm' userId user' isRealm' hasRole isUser' isRevoked
  obtain ⟨user, isUser, wasRevoked⟩ := effect.stillActive notRevocation isUser' isRevoked
  rcases effect.givenRole isRealm' hasRole with ⟨realm, isRealm, hadRole⟩ | ⟨other, isOther, active⟩
  · exact within realm userId user isRealm hadRole isUser wasRevoked
  · rw [isUser] at isOther
    cases isOther
    simp [MemoryUser.isRevoked, active] at wasRevoked

theorem RevokedWithin.store {call : Waiting} (within : RevokedWithin org realmId users)
    (effect : StoreEffect org call org') : RevokedWithin org' realmId users := by
  have replaced : ∀ {id realm₀ realm₁}, org.realms.get? id = some realm₀ →
      org'.realms = org.realms.set id realm₁ → org'.users = org.users →
      realm₁.roles = realm₀.roles → RevokedWithin org' realmId users := by
    intro id realm₀ realm₁ isRealm₀ realms sameUsers roles realm' userId user isRealm' hasRole isUser
    rw [sameUsers] at isUser
    rcases Dict.found_set realms isRealm' with ⟨same, rfl⟩ | ⟨-, isRealm'⟩
    · rw [roles] at hasRole
      exact within realm₀ userId user (same ▸ isRealm₀) hasRole isUser
    · exact within realm' userId user isRealm' hasRole isUser
  cases effect with
  | createVlob isRealm => exact replaced isRealm rfl rfl rfl
  | updateVlob isRealm => exact replaced isRealm rfl rfl rfl
  | rotateKey isRealm => exact replaced isRealm rfl rfl rfl

theorem RevokedWithin.step {s s' : State} {event : Event} (within : RevokedWithin s.org realmId users)
    (noRevocation : NoRevocation s event) (step : Step s event s') :
    RevokedWithin s'.org realmId users := by
  cases step with
  | operation free ok =>
    obtain ⟨topic, -, effect⟩ := Operation.effect ok
    exact within.operation effect noRevocation
  | waits => exact within
  | atOnce checked free noWebhook ok => exact within.store (Waiting.store_effect ok)
  | accepted ok => exact within.store (Waiting.store_effect ok)
  | rejected => exact within

theorem RevokedWithin.unshare {s s' : State} {op : Operation} {userId : UserID}
    (within : RevokedWithin s.org realmId users) (unshares : op.UnsharesUser realmId userId)
    (step : Step s (.operation op) s') : RevokedWithin s'.org realmId (users.erase userId) := by
  cases op with
  | unshareRealm now author key certificate =>
    obtain ⟨certif, signedBy, content, rfl, rfl⟩ := unshares
    have noRevocation : NoRevocation s
        (.operation (.unshareRealm now author key certificate)) := by
      intro revocation same
      cases same
    have after := within.step noRevocation step
    cases step with
    | operation free ok =>
      obtain ⟨found, isSigned, effect⟩ := unshareRealm_effect ok
      rw [content] at isSigned
      cases isSigned
      cases effect with
      | unshare raw hasAuthor differs noRole isUser isRealm =>
        intro realm' other user isRealm' hasRole isUser isRevoked
        refine Finset.mem_erase.mpr ⟨?_, after realm' other user isRealm' hasRole isUser isRevoked⟩
        rintro rfl
        rw [addRole, Dict.get?_set_self] at isRealm'
        cases isRealm'
        rw [currentRole_append, if_pos rfl] at hasRole
        exact hasRole noRole
  | _ => cases unshares

theorem Unshares.spec {s s' : State} (unshares : Unshares realmId users s s')
    (state : ServedState s) (within : RevokedWithin s.org realmId users) :
    ServedState s' ∧ RevokedWithin s'.org realmId ∅ := by
  induction unshares with
  | done => exact ⟨state, within⟩
  | unshare member unshares causal step rest ih =>
    exact ih (state.step causal step) (within.unshare unshares step)
  | other noRevocation causal step rest ih =>
    exact ih (state.step causal step) (within.step noRevocation step)

theorem Step.rotated {s s' : State} {event : Event} (step : Step s event s')
    (rotates : event.Rotates s realmId) : ∃ rotation realm, rotation.certif.realmId = realmId ∧
      StoreEffect s.org (.rotateKey rotation) s'.org ∧ s.org.realms.get? realmId = some realm ∧
      s'.org = s.org.withRotation realm rotation ∧ (Causal s event →
        s.org.lastTimestamp .sequester ≤ rotation.certif.timestamp) := by
  have stored : ∀ {rotation : WaitingRotation} {org' : MemoryOrganization},
      rotation.certif.realmId = realmId → StoreEffect s.org (.rotateKey rotation) org' →
      ∃ realm, s.org.realms.get? realmId = some realm ∧ org' = s.org.withRotation realm rotation := by
    rintro rotation org' rfl effect
    cases effect with
    | @rotateKey rotation realm isRealm => exact ⟨realm, isRealm, rfl⟩
  cases step with
  | operation => cases rotates
  | @waits org waiting succeeded request call checked free webhooks =>
    cases call with
    | rotateKey rotation =>
      rw [rotates.1] at webhooks
      cases webhooks
    | _ => cases rotates
  | @atOnce org org' waiting succeeded request call checked free noWebhook ok =>
    cases call with
    | rotateKey rotation =>
      have effect := Waiting.store_effect ok
      obtain ⟨realm, isRealm, same⟩ := stored rotates.2 effect
      exact ⟨rotation, realm, rotates.2, effect, isRealm, same, fun causal => causal⟩
    | _ => cases rotates
  | @accepted org org' before after succeeded call ok =>
    cases call with
    | rotateKey rotation =>
      have effect := Waiting.store_effect ok
      obtain ⟨realm, isRealm, same⟩ := stored rotates effect
      exact ⟨rotation, realm, rotates, effect, isRealm, same, fun causal => causal⟩
    | _ => cases rotates
  | rejected => cases rotates

/-- Once no member is revoked, a rotation leaves nothing to do. -/
theorem ServedState.rotated {s s' : State} {event : Event} (state : ServedState s)
    (within : RevokedWithin s.org realmId ∅) (causal : Causal s event) (step : Step s event s')
    (rotates : event.Rotates s realmId) {order : HashOrder UserID} {redacted : Bool}
    {storage : Storage} (received : ReceivedAll s'.org redacted realmId storage) :
    getRealmNeeds order storage realmId = .ok .nothing := by
  have served := (state.step causal step).served
  obtain ⟨rotation, realm, rfl, effect, isRealm, same, notBefore⟩ := step.rotated rotates
  have sequester := notBefore causal
  obtain ⟨after, isAfter⟩ : ∃ after : MemoryRealm, after = { realm with
      keyRotations := realm.keyRotations ++ [⟨rotation.certif, rotation.raw,
        rotationAccesses rotation.certif.timestamp rotation.accesses, rotation.keysBundle,
        rotation.sequesterAccesses⟩] } := ⟨_, rfl⟩
  have isRealm' : s'.org.realms.get? rotation.certif.realmId = some after := by
    rw [same, isAfter]
    exact Dict.get?_set_self _ _ _
  have isLast : after.keyRotations.getLast? = some ⟨rotation.certif, rotation.raw,
      rotationAccesses rotation.certif.timestamp rotation.accesses, rotation.keysBundle,
      rotation.sequesterAccesses⟩ := by
    rw [isAfter, List.getLast?_concat]
  have notAfter : ∀ {date}, date ≤ rotation.certif.timestamp → ¬ after.AfterRotation date := by
    intro date early
    rw [afterRotation_iff isLast]
    exact not_lt.mpr early
  have topic : s'.org.lastTimestamp (.realm rotation.certif.realmId) = rotation.certif.timestamp := by
    rw [@lastTimestamp_update s.org s'.org (.realm rotation.certif.realmId)
      rotation.certif.timestamp (by rw [same]; rfl), if_pos rfl]
  obtain ⟨needs, run, nothing, -⟩ := @Served.needs _ _ _ served isRealm' order _ _ received
  have none : needs = .nothing := by
    rw [nothing]
    constructor
    · intro userId hasRole user isUser
      rw [← Bool.not_eq_true]
      intro isRevoked
      have member := within.store effect after userId user isRealm' hasRole isUser isRevoked
      simp at member
    · intro role member noRole
      apply notAfter
      rw [← topic]
      exact (served.keys _ after isRealm').rolesDated role member
    · intro id service isService
      rw [effect.sameServices.findService] at isService
      exact notAfter ((state.served.dated id service isService).1.trans sequester)
    · intro id service revocation isService isRevoked
      rw [effect.sameServices.findService] at isService
      exact notAfter
        (((state.served.dated id service isService).2 revocation isRevoked).trans sequester)
  rw [← none]
  exact run

end Remedy

/-- What the needs of its realms say to a client that has received all certificates. -/
structure NeedsRight (s : State) (realmId : VlobID) (realm : MemoryRealm) (needs : RealmNeeds) :
    Prop where
  nothing : needs = .nothing → ∀ rotation, realm.keyRotations.getLast? = some rotation →
    KeyHeld s.org realm rotation
  revoked : ∀ index users, needs = .unshareThenKeyRotation index users →
    RevokedMembers s.org realm users
  remedy : ∀ index users, needs = .unshareThenKeyRotation index users → ∀ unshared event rotated,
    Unshares realmId users.toFinset s unshared → Causal unshared event →
      Step unshared event rotated → event.Rotates unshared realmId → ∀ order redacted storage,
        ReceivedAll rotated.org redacted realmId storage →
          getRealmNeeds order storage realmId = .ok .nothing

/-- The client gets an answer for every realm, and it is right. -/
def NeedsAnswered (s : State) : Prop :=
  ∀ order redacted realmId realm storage, s.org.realms.get? realmId = some realm →
    ReceivedAll s.org redacted realmId storage →
      ∃ needs, getRealmNeeds order storage realmId = .ok needs ∧ NeedsRight s realmId realm needs

theorem ServedState.needsAnswered {s : State} (state : ServedState s) : NeedsAnswered s := by
  intro order redacted realmId realm storage isRealm received
  obtain ⟨needs, run, nothing, revoked⟩ :=
    @Served.needs _ _ _ state.served isRealm order _ _ received
  refine ⟨needs, run, ?_, revoked, ?_⟩
  · intro none rotation isLast
    exact state.served.keyHeld isRealm isLast (nothing.mp none)
  · intro index users same unshared event rotated unshares causal step rotates order redacted
      storage received
    have within : RevokedWithin s.org realmId users.toFinset := by
      intro realm' userId user isRealm' hasRole isUser isRevoked
      rw [isRealm] at isRealm'
      cases isRealm'
      rw [List.mem_toFinset, (revoked index users same).2]
      exact ⟨hasRole, user, isUser, isRevoked⟩
    obtain ⟨state', within'⟩ := unshares.spec state within
    exact state'.rotated within' causal step rotates received

theorem JustBootstrapped.served {org : MemoryOrganization} {user : MemoryUser}
    {device : MemoryDevice} (start : JustBootstrapped org user device) : Served org := by
  have noRealm : ∀ {realmId realm}, org.realms.get? realmId = some realm → False := by
    intro realmId realm isRealm
    rw [start.noRealm] at isRealm
    cases isRealm
  have noService : ∀ id, org.findService id = none := by
    intro id
    rcases start.sequester with ⟨-, isServices⟩ | ⟨authority, raw, -, isServices, -⟩
    · rw [findService, isServices]
      rfl
    · rw [findService, isServices]
      rfl
  constructor
  · exact fun _ _ isRealm => (noRealm isRealm).elim
  · intro userId found certif raw isUser isRevoked
    rcases Dict.found_set start.users isUser with ⟨-, rfl⟩ | ⟨-, isUser⟩
    · rw [start.notRevoked] at isRevoked
      cases isRevoked
    · cases isUser
  · exact fun _ _ _ isRealm => (noRealm isRealm).elim
  · unfold SequesterConsistent
    rcases start.sequester with ⟨noAuthority, noServices⟩ | ⟨authority, raw, isAuthority, isServices, -⟩
    · rw [noAuthority, noServices]
      rfl
    · rw [isAuthority, isServices]
      rfl
  · intro id service isService
    rw [noService] at isService
    cases isService
  · intro id service isService
    rw [noService] at isService
    cases isService
  · exact fun _ _ _ isRealm => (noRealm isRealm).elim

/-- The needs of the realms are right in every state reached, as long as the certificates of the
    services and the rotations are dated in their order. -/
theorem realm_needs_right (org : MemoryOrganization) (user : MemoryUser) (device : MemoryDevice)
    (start : JustBootstrapped org user device) (s : State) (run : Run Step Causal ⟨org, [], []⟩ s) :
    NeedsAnswered s := by
  have first : ServedState ⟨org, [], []⟩ :=
    ⟨⟨by simp, List.Pairwise.nil⟩, start.served, by simp⟩
  have state : ServedState s := by
    apply run.keeps first
    intro s event s' state causal step
    exact state.step causal step
  exact state.needsAnswered

def servedRealmRole : RealmRoleCertificate := ⟨⟨11⟩, 3, ⟨5⟩, ⟨1⟩, some .owner⟩

def servedRotation : WaitingRotation :=
  ⟨⟨⟨11⟩, 5, ⟨5⟩, 1, []⟩, [], Dict.empty.set ⟨1⟩ [10], [30], some (Dict.empty.set ⟨7⟩ [70]), 1, 3⟩

def servedRealm : MemoryRealm :=
  ⟨⟨5⟩, 3, [(servedRealmRole, [])], [], [⟨servedRotation.certif, [],
    rotationAccesses 5 (Dict.empty.set ⟨1⟩ [10]), [30], some (Dict.empty.set ⟨7⟩ [70])⟩], [], none,
    .empty⟩

/-- An organization with a service and a realm, whose key the service has, before the service is
    revoked at this date. -/
def rotatedOrganization : MemoryOrganization :=
  { sequesteredOrganization.withService .empty ⟨2, ⟨7⟩⟩ [2] .storage with
    realms := Dict.empty.set ⟨5⟩ servedRealm
    perTopicLastTimestamp := Function.update (Function.update
      (sequesteredOrganization.withService .empty ⟨2, ⟨7⟩⟩ [2] .storage).perTopicLastTimestamp
      (.realm ⟨5⟩) (some 3)) (.realm ⟨5⟩) (some 5) }

def revokedAt (date : DateTime) : MemoryOrganization :=
  rotatedOrganization.withRevokedService (Dict.empty.set ⟨7⟩ firstService) firstService ⟨date, ⟨7⟩⟩ [4]

theorem rotated_run {admits : State → Event → Prop}
    (service : admits ⟨sequesteredOrganization, [], []⟩
      (.operation (.createService ([2], .service ⟨2, ⟨7⟩⟩ ⟨31⟩) .storage)))
    (others : ∀ s now author key certificate,
      admits s (.operation (.createRealm now author key certificate)))
    (rotation : ∀ s request, s.org.lastTimestamp .sequester = 2 →
      admits s (.request request (.rotateKey servedRotation))) :
    Run Step admits ⟨sequesteredOrganization, [], []⟩ ⟨rotatedOrganization, [], []⟩ := by
  have first : Run Step admits ⟨sequesteredOrganization, [], []⟩
      ⟨sequesteredOrganization.withService .empty ⟨2, ⟨7⟩⟩ [2] .storage, [], []⟩ :=
    .step .start service (.operation (by simp) rfl)
  have second := first.step (others _ 3 ⟨11⟩ ⟨21⟩ ⟨[], .certificate servedRealmRole ⟨21⟩⟩)
    (.operation (by simp) rfl)
  exact second.step (t := .request (.rotateKey 5 ⟨11⟩ ⟨21⟩ ⟨[], .certificate servedRotation.certif ⟨21⟩⟩
    (Dict.empty.set ⟨1⟩ [10]) [30] (some (Dict.empty.set ⟨7⟩ [70]))) (.rotateKey servedRotation))
    (rotation _ _ rfl) (.atOnce (.rotateKey (by rfl)) (by simp [CanLock]) (by decide) rfl)

theorem revoked_step (date : DateTime) (later : 2 < date) : Step ⟨rotatedOrganization, [], []⟩
    (.operation (.revokeService ([4], .revokedService ⟨date, ⟨7⟩⟩ ⟨31⟩))) ⟨revokedAt date, [], []⟩ := by
  apply Step.operation (by simp)
  have causality : checkCausality (rotatedOrganization.lastTimestamp .sequester) date = .ok () := by
    have topic : rotatedOrganization.lastTimestamp .sequester = 2 := rfl
    rw [topic, checkCausality, refuse_eq_ok]
    simpa using later
  change rotatedOrganization.revokeService ([4], .revokedService ⟨date, ⟨7⟩⟩ ⟨31⟩) =
    .ok (revokedAt date)
  unfold revokeService
  apply bind_eq_ok.mpr
  refine ⟨(Dict.empty.set ⟨7⟩ firstService, ⟨31⟩), rfl, ?_⟩
  apply bind_eq_ok.mpr
  exact ⟨(), rfl, bind_eq_ok.mpr ⟨(), causality, rfl⟩⟩

theorem revokedAt_service {date : DateTime} {id : SequesterServiceID}
    {service : MemorySequesterService} (isService : (revokedAt date).findService id = some service) :
    service = { firstService with revoked := some (⟨date, ⟨7⟩⟩, [4]) } := by
  change ((Dict.empty.set ⟨7⟩ firstService).set ⟨7⟩ _).get? id = some service at isService
  rcases Dict.found_set rfl isService with ⟨-, rfl⟩ | ⟨other, isService⟩
  · rfl
  · rw [Dict.get?_set_of_ne other] at isService
    cases isService

/-- The service is revoked after the rotation. -/
theorem realm_needs_right_of_service :
    Run Step Causal ⟨sequesteredOrganization, [], []⟩ ⟨revokedAt 6, [], []⟩ ∧
      NeedsAnswered ⟨revokedAt 6, [], []⟩ := by
  have run : Run Step Causal ⟨sequesteredOrganization, [], []⟩ ⟨rotatedOrganization, [], []⟩ := by
    apply rotated_run
    · intro date _ realmId realm isRealm
      cases isRealm
    · intro s now author key certificate date same
      cases same
    · intro s request topic
      change s.org.lastTimestamp .sequester ≤ 5
      rw [topic]
      decide
  have causal : Causal ⟨rotatedOrganization, [], []⟩
      (.operation (.revokeService ([4], .revokedService ⟨6, ⟨7⟩⟩ ⟨31⟩))) := by
    intro date isDate realmId realm isRealm
    cases isDate
    change (Dict.empty.set _ _).get? realmId = _ at isRealm
    rcases Dict.found_set rfl isRealm with ⟨-, rfl⟩ | ⟨-, isRealm⟩
    · intro certif isLast
      cases isLast
      decide
    · cases isRealm
  have reached := run.step causal (revoked_step 6 (by decide))
  exact ⟨reached, realm_needs_right _ firstUser firstDevice justBootstrapped_sequesteredOrganization _
    reached⟩

/-- The certificates of the common and the sequester topics and of the realm. -/
def revokedStorage (date : DateTime) : Storage :=
  ((revokedAt date).commonEntries false).map (·.content) ++
    ((revokedAt date).sequesterCertificates.map (·.content) ++ servedRealm.entries.map (·.content))

theorem revokedStorage_received (date : DateTime) :
    ReceivedAll (revokedAt date) false ⟨5⟩ (revokedStorage date) := by
  refine ⟨List.Perm.of_eq rfl, List.Perm.of_eq rfl, ?_⟩
  intro realm isRealm
  cases isRealm
  exact List.Perm.of_eq rfl

/-- A service that is revoked with a date before the last rotation still has the key, and nothing
    is needed. -/
theorem revoked_before_rotation :
    ¬ ∀ org user device, JustBootstrapped org user device → ∀ s,
      Run Step (fun _ _ => True) ⟨org, [], []⟩ s → NeedsAnswered s := by
  intro always
  have run : Run Step (fun _ _ => True) ⟨sequesteredOrganization, [], []⟩ ⟨revokedAt 4, [], []⟩ :=
    (rotated_run trivial (fun _ _ _ _ _ => trivial) fun _ _ _ => trivial).step trivial
      (revoked_step 4 (by decide))
  obtain ⟨needs, isNeeds, right⟩ := always _ firstUser firstDevice
    justBootstrapped_sequesteredOrganization _ run (HashOrder.any UserID) false ⟨5⟩ servedRealm
    (revokedStorage 4) rfl (revokedStorage_received 4)
  have noRevocation : ∀ userId user, (revokedAt 4).users.get? userId = some user →
      user.revoked = none := by
    intro userId user isUser
    change (Dict.empty.set _ _).get? userId = _ at isUser
    rcases Dict.found_set rfl isUser with ⟨-, rfl⟩ | ⟨-, isUser⟩
    · rfl
    · cases isUser
  obtain ⟨answer, isAnswer, nothing, -⟩ := @ReceivedAll.needs _ _ _ _ servedRealm (HashOrder.any UserID)
    (revokedStorage_received 4) rfl
    (fun userId user certif raw isUser isRevoked => by
      rw [noRevocation userId user isUser] at isRevoked
      cases isRevoked)
    rfl (List.pairwise_singleton _ _) (List.pairwise_singleton _ _)
  rw [isNeeds] at isAnswer
  cases isAnswer
  have isLast : servedRealm.keyRotations.getLast? = some _ := rfl
  have isNothing : needs = .nothing := by
    rw [nothing]
    constructor
    · intro userId hasRole user isUser
      simp [MemoryUser.isRevoked, noRevocation userId user isUser]
    · intro role member noRole
      rw [List.mem_singleton.mp member] at noRole
      cases noRole
    · intro id service isService
      rw [revokedAt_service isService, afterRotation_iff isLast]
      decide
    · intro id service revocation isService isRevoked
      rw [revokedAt_service isService] at isRevoked
      cases isRevoked
      rw [afterRotation_iff isLast]
      decide
  have held := right.nothing isNothing _ isLast
  obtain ⟨service, isService, active⟩ := (held.services ⟨7⟩).mp (by decide)
  cases isService
  cases active

end ParsecCloud.Server

import ParsecCloud.Server.CertificateLogs
import ParsecCloud.Certif.RealmNeeds

/- What a client that has received the certificates of the common and the sequester topics and of a
   realm finds in its storage, and what it says of the needs of the realm. -/
namespace ParsecCloud.Server
open Certif Rust HashMap Storage MemoryOrganization

/-- The topic that a certificate belongs to. -/
def certificateTopic : Certificate → TopicAndDiscriminant
  | .common _ => .common
  | .realm certif => .realm certif.realmId
  | .shamirRecovery _ => .shamirRecovery
  | .sequester _ => .sequester

/-- The storage has the certificates of the organization for these topics, once each. -/
structure ReceivedAll (org : MemoryOrganization) (redacted : Bool) (realmId : VlobID)
    (storage : Storage) : Prop where
  common : (storage.filter fun certif => certificateTopic certif = .common).Perm
    ((org.commonEntries redacted).map (·.content))
  sequester : (storage.filter fun certif => certificateTopic certif = .sequester).Perm
    (org.sequesterCertificates.map (·.content))
  realm : ∀ realm, org.realms.get? realmId = some realm →
    (storage.filter fun certif => certificateTopic certif = .realm realmId).Perm
      (realm.entries.map (·.content))

def MemoryOrganization.findService (org : MemoryOrganization) (id : SequesterServiceID) :
    Option MemorySequesterService := org.sequesterServices.bind (·.get? id)

namespace ReceivedAll
variable {org : MemoryOrganization} {redacted : Bool} {realmId : VlobID} {storage : Storage}
  {realm : MemoryRealm} (received : ReceivedAll org redacted realmId storage)
include received

theorem mem_common {certif : CommonCertificate} : .common certif ∈ storage ↔
    ∃ entry ∈ org.commonEntries redacted, entry.content = .common certif := by
  have member := received.common.mem_iff (a := .common certif)
  rw [List.mem_filter, List.mem_map] at member
  simpa [certificateTopic] using member

theorem mem_sequester {certif : SequesterCertificate} : .sequester certif ∈ storage ↔
    ∃ entry ∈ org.sequesterCertificates, entry.content = .sequester certif := by
  have member := received.sequester.mem_iff (a := .sequester certif)
  rw [List.mem_filter, List.mem_map] at member
  simpa [certificateTopic] using member

theorem mem_realm (isRealm : org.realms.get? realmId = some realm) {certif : RealmCertificate} :
    .realm certif ∈ storage ∧ certif.realmId = realmId ↔
      ∃ entry ∈ realm.entries, entry.content = .realm certif := by
  have member := (received.realm realm isRealm).mem_iff (a := .realm certif)
  rw [List.mem_filter, List.mem_map] at member
  simpa [certificateTopic] using member

theorem select_roles (isRealm : org.realms.get? realmId = some realm) :
    (storage.select (GetCertificateQuery.realmRoleCertificates realmId) .current).Perm
      ((realm.roles.map Prod.fst).map fun certif => .realm (.role certif)) := by
  have selects := selects_realmRoles realmId
  have narrowed : storage.select (GetCertificateQuery.realmRoleCertificates realmId) .current =
      (storage.filter fun certif => certificateTopic certif = .realm realmId).filter
        (GetCertificateQuery.realmRoleCertificates realmId).selects := by
    rw [List.filter_filter, select]
    apply List.filter_congr
    intro certif _
    cases isSelected : (GetCertificateQuery.realmRoleCertificates realmId).selects certif with
    | false => simp
    | true =>
      obtain ⟨role, rfl, ofRealm⟩ := (selects.selects_iff certif).mp isSelected
      simp [certificateTopic, RealmCertificate.realmId, ofRealm]
  have rolesKept : (realm.roles.map (CertificateEntry.content ∘ roleEntry)).filter
      (GetCertificateQuery.realmRoleCertificates realmId).selects =
        realm.roles.map (CertificateEntry.content ∘ roleEntry) := by
    apply List.filter_eq_self.mpr
    intro certif member
    obtain ⟨role, inRoles, rfl⟩ := List.mem_map.mp member
    have isEntry : roleEntry role ∈ realm.entries := by
      simp only [MemoryRealm.entries, List.mem_append]
      exact Or.inl (Or.inl (List.mem_map_of_mem inRoles))
    exact (selects.selects_iff _).mpr
      ⟨role.1, rfl, ((received.mem_realm isRealm).mpr ⟨_, isEntry, rfl⟩).2⟩
  have rotationsLeft : (realm.keyRotations.map (CertificateEntry.content ∘ rotationEntry)).filter
      (GetCertificateQuery.realmRoleCertificates realmId).selects = [] := by
    apply List.filter_eq_nil_iff.mpr
    intro certif member
    obtain ⟨rotation, -, rfl⟩ := List.mem_map.mp member
    simp [selects.selects_iff, rotationEntry]
  have namesLeft : (realm.renames.map (CertificateEntry.content ∘ nameEntry)).filter
      (GetCertificateQuery.realmRoleCertificates realmId).selects = [] := by
    apply List.filter_eq_nil_iff.mpr
    intro certif member
    obtain ⟨name, -, rfl⟩ := List.mem_map.mp member
    simp [selects.selects_iff, nameEntry]
  rw [narrowed]
  apply ((received.realm realm isRealm).filter _).trans
  rw [MemoryRealm.entries, List.map_append, List.map_append, List.map_map, List.map_map,
    List.map_map, List.filter_append, List.filter_append, rolesKept, rotationsLeft, namesLeft,
    List.append_nil, List.append_nil, List.map_map]
  exact List.Perm.refl _

theorem roles (isRealm : org.realms.get? realmId = some realm)
    (ordered : realm.roles.Pairwise fun a b => a.1.timestamp < b.1.timestamp) :
    storage.getRealmRoles .current realmId = .ok (realm.roles.map Prod.fst) := by
  obtain ⟨found, isFound, perm, sorted⟩ :=
    @Selects.getMultiple_perm _ storage _ .current _ _ _ (selects_realmRoles realmId)
  have injective : Function.Injective fun certif => Certificate.realm (.role certif) := by
    intro a b same
    cases same
    rfl
  have isPerm := (List.map_perm_map_iff injective).mp (perm.trans (received.select_roles isRealm))
  have strict : (realm.roles.map Prod.fst).Pairwise fun a b => a.timestamp < b.timestamp :=
    List.pairwise_map.mpr ordered
  have dates : ((realm.roles.map Prod.fst).map RealmRoleCertificate.timestamp).Nodup :=
    List.pairwise_map.mpr (strict.imp fun less => less.ne)
  have same : found = realm.roles.map Prod.fst := by
    refine List.Perm.eq_of_pairwise ?_ sorted (strict.imp fun less => less.le) isPerm
    intro a b inFound inRoles before after
    exact List.inj_on_of_nodup_map dates (isPerm.mem_iff.mp inFound) inRoles
      (le_antisymm before after)
  rw [← same]
  exact isFound

theorem mem_rotation (isRealm : org.realms.get? realmId = some realm)
    {certif : RealmKeyRotationCertificate} :
    .realm (.keyRotation certif) ∈ storage ∧ certif.realmId = realmId ↔ certif ∈ realm.rotations := by
  have member := @mem_realm _ _ _ _ _ received isRealm (.keyRotation certif)
  rw [RealmCertificate.realmId] at member
  rw [member, MemoryRealm.rotations, List.mem_map]
  constructor
  · rintro ⟨entry, inEntries, isContent⟩
    simp only [MemoryRealm.entries, List.mem_append, List.mem_map] at inEntries
    rcases inEntries with (⟨role, -, rfl⟩ | ⟨rotation, inRotations, rfl⟩) | ⟨name, -, rfl⟩
    · cases isContent
    · cases isContent
      exact ⟨rotation, inRotations, rfl⟩
    · cases isContent
  · rintro ⟨rotation, inRotations, rfl⟩
    refine ⟨rotationEntry rotation, ?_, rfl⟩
    simp only [MemoryRealm.entries, List.mem_append]
    exact Or.inl (Or.inr (List.mem_map_of_mem inRotations))

theorem lastKeyRotation (isRealm : org.realms.get? realmId = some realm)
    (ordered : realm.rotations.Pairwise fun a b => a.timestamp < b.timestamp) :
    storage.getRealmLastKeyRotationCertificate .current realmId = .ok realm.rotations.getLast? := by
  have selects := selects_keyRotations realmId
  obtain ⟨found, isFound⟩ := @Selects.getMaybe_total _ storage _ .current _ _ _ selects
  have same : found = realm.rotations.getLast? := by
    cases found with
    | none =>
      cases isLast : realm.rotations.getLast? with
      | none => rfl
      | some certif =>
        obtain ⟨stored, ofRealm⟩ :=
          (received.mem_rotation isRealm).mpr (List.mem_of_getLast? isLast)
        cases selects.getMaybe_none isFound stored ofRealm
    | some certif =>
      obtain ⟨stored, ofRealm, -, newest⟩ := selects.getMaybe_some isFound
      have member := (received.mem_rotation isRealm).mp ⟨stored, ofRealm⟩
      obtain ⟨before, after, split⟩ := List.append_of_mem member
      cases after with
      | nil => simp [split]
      | cons next rest =>
        have isNext : next ∈ realm.rotations := by simp [split]
        obtain ⟨nextStored, nextOfRealm⟩ := (received.mem_rotation isRealm).mpr isNext
        have notNewer : next.timestamp ≤ certif.timestamp :=
          newest next nextStored nextOfRealm rfl
        rw [split, List.pairwise_append, List.pairwise_cons] at ordered
        exact absurd (ordered.2.1.1 next (by simp)) (not_lt.mpr notNewer)
  rw [← same]
  exact isFound

theorem mem_revokedUser {certif : RevokedUserCertificate} :
    .common (.revokedUser certif) ∈ storage ↔
      ∃ userId user raw, org.users.get? userId = some user ∧ user.revoked = some (certif, raw) := by
  rw [received.mem_common]
  constructor
  · rintro ⟨entry, inEntries, isContent⟩
    simp only [commonEntries, List.mem_append, List.mem_flatMap, List.mem_map] at inEntries
    rcases inEntries with ⟨user, isUser, inUser⟩ | ⟨device, -, rfl⟩
    · obtain ⟨userId, isFound⟩ := Dict.get?_of_mem_values isUser
      simp only [userEntries, List.mem_cons, List.mem_append, List.mem_map, Option.mem_toList] at inUser
      rcases inUser with rfl | ⟨⟨revocation, raw⟩, isRevoked, rfl⟩ | ⟨update, -, rfl⟩
      · cases isContent
      · cases isContent
        exact ⟨userId, user, raw, isFound, isRevoked⟩
      · cases isContent
    · cases isContent
  · rintro ⟨userId, user, raw, isUser, isRevoked⟩
    refine ⟨⟨certif.timestamp, 1, raw, .common (.revokedUser certif)⟩, ?_, rfl⟩
    simp only [commonEntries, List.mem_append, List.mem_flatMap]
    refine Or.inl ⟨user, Dict.mem_values_of_get? isUser, ?_⟩
    simp [userEntries, isRevoked]

theorem revokedUsers (named : ∀ userId user certif raw, org.users.get? userId = some user →
      user.revoked = some (certif, raw) → certif.userId = userId) :
    ∃ revoked : UserID → Option RevokedUserCertificate,
      (∀ userId, storage.getRevokedUserCertificate .current userId = .ok (revoked userId)) ∧
      ∀ userId, (revoked userId).isSome ↔
        ∃ user, org.users.get? userId = some user ∧ user.isRevoked = true := by
  choose revoked answers using fun userId =>
    @Selects.getMaybe_total _ storage _ .current _ _ _ (selects_revokedUser userId)
  refine ⟨revoked, answers, ?_⟩
  intro userId
  have answer := answers userId
  cases found : revoked userId with
  | none =>
    rw [found] at answer
    simp only [Option.isSome_none, Bool.false_eq_true, false_iff, not_exists, not_and]
    intro user isUser isRevoked
    obtain ⟨⟨certif, raw⟩, revocation⟩ := Option.isSome_iff_exists.mp isRevoked
    have stored := received.mem_revokedUser.mpr ⟨userId, user, raw, isUser, revocation⟩
    cases (selects_revokedUser userId).getMaybe_none answer stored
      (named userId user certif raw isUser revocation)
  | some certif =>
    rw [found] at answer
    obtain ⟨stored, ofUser, -⟩ := (selects_revokedUser userId).getMaybe_some answer
    obtain ⟨owner, user, raw, isUser, revocation⟩ := received.mem_revokedUser.mp stored
    have same := named owner user certif raw isUser revocation
    rw [ofUser] at same
    subst same
    simp only [Option.isSome_some, true_iff]
    exact ⟨user, isUser, by simp [MemoryUser.isRevoked, revocation]⟩

end ReceivedAll

section Services
variable {org : MemoryOrganization} {redacted : Bool} {realmId : VlobID} {storage : Storage}

/-- An organization has services, maybe none yet, when it has a sequester authority. -/
def SequesterConsistent (org : MemoryOrganization) : Prop :=
  org.sequesterAuthority.isSome = org.sequesterServices.isSome

theorem mem_sequesterCertificates (consistent : SequesterConsistent org) {entry : CertificateEntry} :
    entry ∈ org.sequesterCertificates ↔
      (∃ authority raw, org.sequesterAuthority = some (authority, raw) ∧
        entry = ⟨authority.timestamp, 0, raw, .sequester (.authority authority)⟩) ∨
      ∃ id service, org.findService id = some service ∧ entry ∈ serviceEntries service := by
  unfold SequesterConsistent at consistent
  unfold sequesterCertificates findService
  cases isAuthority : org.sequesterAuthority with
  | none =>
    cases isServices : org.sequesterServices with
    | none => simp
    | some services =>
      rw [isAuthority, isServices] at consistent
      cases consistent
  | some authority =>
    obtain ⟨authority, raw⟩ := authority
    cases isServices : org.sequesterServices with
    | none =>
      rw [isAuthority, isServices] at consistent
      cases consistent
    | some services =>
      simp only [List.mem_cons, List.mem_flatMap, Option.bind_some, Option.some.injEq,
        Prod.mk.injEq]
      apply or_congr
      · constructor
        · rintro rfl
          exact ⟨authority, raw, ⟨rfl, rfl⟩, rfl⟩
        · rintro ⟨_, _, ⟨rfl, rfl⟩, rfl⟩
          rfl
      · constructor
        · rintro ⟨service, isService, inEntries⟩
          obtain ⟨id, isFound⟩ := Dict.get?_of_mem_values isService
          exact ⟨id, service, isFound, inEntries⟩
        · rintro ⟨id, service, isFound, inEntries⟩
          exact ⟨service, Dict.mem_values_of_get? isFound, inEntries⟩

variable (received : ReceivedAll org redacted realmId storage) (consistent : SequesterConsistent org)
include received consistent

theorem ReceivedAll.mem_service {certif : SequesterServiceCertificate} :
    .sequester (.service certif) ∈ storage ↔
      ∃ id service, org.findService id = some service ∧ service.cooked = certif := by
  rw [received.mem_sequester]
  simp only [mem_sequesterCertificates consistent]
  constructor
  · rintro ⟨entry, ⟨authority, raw, -, rfl⟩ | ⟨id, service, isService, inEntries⟩, isContent⟩
    · cases isContent
    · simp only [serviceEntries, List.mem_cons, List.mem_map, Option.mem_toList] at inEntries
      rcases inEntries with rfl | ⟨revocation, -, rfl⟩
      · cases isContent
        exact ⟨id, service, isService, rfl⟩
      · cases isContent
  · rintro ⟨id, service, isService, rfl⟩
    exact ⟨_, Or.inr ⟨id, service, isService, by rw [serviceEntries]; exact List.mem_cons_self⟩, rfl⟩

theorem ReceivedAll.mem_revokedService {certif : SequesterRevokedServiceCertificate} :
    .sequester (.revokedService certif) ∈ storage ↔
      ∃ id service raw, org.findService id = some service ∧
        service.revoked = some (certif, raw) := by
  rw [received.mem_sequester]
  simp only [mem_sequesterCertificates consistent]
  constructor
  · rintro ⟨entry, ⟨authority, raw, -, rfl⟩ | ⟨id, service, isService, inEntries⟩, isContent⟩
    · cases isContent
    · simp only [serviceEntries, List.mem_cons, List.mem_map, Option.mem_toList] at inEntries
      rcases inEntries with rfl | ⟨⟨revocation, raw⟩, isRevoked, rfl⟩
      · cases isContent
      · cases isContent
        exact ⟨id, service, raw, isService, isRevoked⟩
  · rintro ⟨id, service, raw, isService, isRevoked⟩
    refine ⟨⟨certif.timestamp, 0, raw, .sequester (.revokedService certif)⟩,
      Or.inr ⟨id, service, isService, ?_⟩, rfl⟩
    simp [serviceEntries, isRevoked]

theorem ReceivedAll.authority : (∃ certif, .sequester (.authority certif) ∈ storage) ↔
    org.sequesterAuthority.isSome = true := by
  simp only [received.mem_sequester, mem_sequesterCertificates consistent]
  constructor
  · rintro ⟨certif, entry, ⟨authority, raw, isAuthority, -⟩ | ⟨id, service, -, inEntries⟩, isContent⟩
    · rw [isAuthority]
      rfl
    · simp only [serviceEntries, List.mem_cons, List.mem_map] at inEntries
      rcases inEntries with rfl | ⟨revocation, -, rfl⟩
      · cases isContent
      · cases isContent
  · intro isSome
    obtain ⟨⟨authority, raw⟩, isAuthority⟩ := Option.isSome_iff_exists.mp isSome
    exact ⟨authority, _, Or.inl ⟨authority, raw, isAuthority, rfl⟩, rfl⟩

theorem ReceivedAll.noService (none : storage.getSequesterAuthorityCertificate = .ok none)
    (id : SequesterServiceID) : org.findService id = Option.none := by
  have noAuthority : org.sequesterAuthority.isSome = false := by
    rw [Bool.eq_false_iff]
    intro isSome
    obtain ⟨certif, stored⟩ := (received.authority consistent).mpr isSome
    cases selects_sequesterAuthority.getMaybe_none none stored trivial
  unfold SequesterConsistent at consistent
  rw [noAuthority] at consistent
  have noServices : org.sequesterServices = Option.none := by
    simpa using consistent.symm
  rw [findService, noServices]
  rfl

theorem ReceivedAll.services : ∃ services,
    storage.getSequesterServiceCertificates .current = .ok services ∧
      ∀ certif, certif ∈ services ↔
        ∃ id service, org.findService id = some service ∧ service.cooked = certif := by
  obtain ⟨authority, isAuthority⟩ := @Selects.getMaybe_total _ storage _ .current _ _ _
    selects_sequesterAuthority
  cases authority with
  | none =>
    refine ⟨[], bind_eq_ok.mpr ⟨none, isAuthority, rfl⟩, ?_⟩
    simp [received.noService consistent isAuthority]
  | some authority =>
    obtain ⟨services, isServices, -⟩ := @Selects.getMultiple_perm _ storage _ .current _ _ _
      selects_sequesterServices
    refine ⟨services, bind_eq_ok.mpr ⟨some authority, isAuthority, isServices⟩, ?_⟩
    intro certif
    rw [selects_sequesterServices.mem_getMultiple isServices, and_true,
      received.mem_service consistent]

theorem ReceivedAll.revokedServices : ∃ revokedServices,
    storage.getSequesterRevokedServiceCertificates .current = .ok revokedServices ∧
      ∀ certif, certif ∈ revokedServices ↔
        ∃ id service raw, org.findService id = some service ∧
          service.revoked = some (certif, raw) := by
  obtain ⟨authority, isAuthority⟩ := @Selects.getMaybe_total _ storage _ .current _ _ _
    selects_sequesterAuthority
  cases authority with
  | none =>
    refine ⟨[], bind_eq_ok.mpr ⟨none, isAuthority, rfl⟩, ?_⟩
    simp [received.noService consistent isAuthority]
  | some authority =>
    obtain ⟨revokedServices, isRevoked, -⟩ := @Selects.getMultiple_perm _ storage _ .current _ _ _
      selects_sequesterRevokedServices
    refine ⟨revokedServices, bind_eq_ok.mpr ⟨some authority, isAuthority, isRevoked⟩, ?_⟩
    intro certif
    rw [selects_sequesterRevokedServices.mem_getMultiple isRevoked, and_true,
      received.mem_revokedService consistent]

end Services

section Needs
variable {org : MemoryOrganization} {redacted : Bool} {realmId : VlobID} {storage : Storage}
  {realm : MemoryRealm} {order : HashOrder UserID}

/-- A date after the last key rotation of the realm, if there is one. -/
def MemoryRealm.AfterRotation (realm : MemoryRealm) (date : DateTime) : Prop :=
  ∀ certif, realm.rotations.getLast? = some certif → certif.timestamp < date

theorem moreRecent_iff {date : DateTime} :
    moreRecentThanLastKeyRotation realm.rotations.getLast? date = true ↔ realm.AfterRotation date := by
  unfold moreRecentThanLastKeyRotation MemoryRealm.AfterRotation
  cases realm.rotations.getLast? with
  | none => simp
  | some certif => simp

/-- Nothing is needed when no member is revoked and nothing happened since the last rotation. -/
structure NothingNeeded (org : MemoryOrganization) (realm : MemoryRealm) : Prop where
  members : ∀ userId, realm.getCurrentRoleFor userId ≠ none → ∀ user,
    org.users.get? userId = some user → user.isRevoked = false
  unshared : ∀ role ∈ realm.roles, role.1.role = none → ¬ realm.AfterRotation role.1.timestamp
  created : ∀ id service, org.findService id = some service →
    ¬ realm.AfterRotation service.cooked.timestamp
  revoked : ∀ id service revocation, org.findService id = some service →
    service.revoked = some revocation → ¬ realm.AfterRotation revocation.1.timestamp

/-- The users to unshare. -/
def RevokedMembers (org : MemoryOrganization) (realm : MemoryRealm) (users : List UserID) : Prop :=
  users.Nodup ∧ ∀ userId, userId ∈ users ↔ realm.getCurrentRoleFor userId ≠ none ∧
    ∃ user, org.users.get? userId = some user ∧ user.isRevoked = true

theorem usersWithRole_eq (roles : Roles) : usersWithRole (roles.map Prod.fst) = participants roles := by
  induction roles using List.reverseRecOn with
  | nil => rfl
  | append_singleton rest role ih =>
    obtain ⟨certif, raw⟩ := role
    rw [participants_append, ← ih, List.map_append, usersWithRole, List.foldl_append]
    cases isRole : certif.role with
    | none => simp [isRole, usersWithRole]
    | some _ => simp [isRole, usersWithRole]

theorem ReceivedAll.needs (received : ReceivedAll org redacted realmId storage)
    (consistent : SequesterConsistent org)
    (named : ∀ userId user certif raw, org.users.get? userId = some user →
      user.revoked = some (certif, raw) → certif.userId = userId)
    (isRealm : org.realms.get? realmId = some realm)
    (rolesOrdered : realm.roles.Pairwise fun a b => a.1.timestamp < b.1.timestamp)
    (rotationsOrdered : realm.rotations.Pairwise fun a b => a.timestamp < b.timestamp) :
    ∃ needs, getRealmNeeds order storage realmId = .ok needs ∧
      (needs = .nothing ↔ NothingNeeded org realm) ∧
      ∀ index users, needs = .unshareThenKeyRotation index users → RevokedMembers org realm users := by
  obtain ⟨revoked, answers, isRevoked⟩ := received.revokedUsers named
  obtain ⟨services, isServices, memService⟩ := received.services consistent
  obtain ⟨revokedServices, isRevokedServices, memRevoked⟩ := received.revokedServices consistent
  obtain ⟨needs, run, spec⟩ := @getRealmNeeds_spec order _ _ _ _ _ _ _
    (received.lastKeyRotation isRealm rotationsOrdered) (received.roles isRealm rolesOrdered) answers
    isServices isRevokedServices
  have isMember : ∀ userId, userId ∈ usersWithRole (realm.roles.map Prod.fst) ↔
      realm.getCurrentRoleFor userId ≠ none := by
    intro userId
    rw [usersWithRole_eq, mem_participants, getCurrentRoleFor_eq]
  have notRecent : ∀ date, moreRecentThanLastKeyRotation realm.rotations.getLast? date = false ↔
      ¬ realm.AfterRotation date := by
    intro date
    rw [← moreRecent_iff, Bool.not_eq_true]
  have notRevoked : ∀ userId, revoked userId = none ↔
      ∀ user, org.users.get? userId = some user → user.isRevoked = false := by
    intro userId
    rw [← Option.not_isSome_iff_eq_none, isRevoked]
    simp
  refine ⟨needs, run, spec.nothing.trans ?_, ?_⟩
  · simp only [List.forall_mem_append, List.forall_mem_map, notRecent, isMember, notRevoked,
      memService, memRevoked]
    constructor
    · rintro ⟨members, unshared, created, revoked⟩
      refine ⟨members, unshared, ?_, ?_⟩
      · intro id service isService
        exact created _ ⟨id, service, isService, rfl⟩
      · intro id service revocation isService isRevoked
        exact revoked revocation.1 ⟨id, service, revocation.2, isService, isRevoked⟩
    · rintro ⟨members, unshared, created, revoked⟩
      refine ⟨members, unshared, ?_, ?_⟩
      · rintro certif ⟨id, service, isService, rfl⟩
        exact created id service isService
      · rintro certif ⟨id, service, raw, isService, isRevoked⟩
        exact revoked id service (certif, raw) isService isRevoked
  · intro index users same
    obtain ⟨nodup, members⟩ := spec.unshare index users same
    refine ⟨nodup, ?_⟩
    intro userId
    rw [members, isMember, isRevoked]

end Needs

end ParsecCloud.Server

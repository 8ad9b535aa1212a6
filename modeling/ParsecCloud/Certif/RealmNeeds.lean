import ParsecCloud.Certif.Queries

/- What a realm needs once users or sequester services have come and gone (certif/realms_needs.rs). -/
namespace ParsecCloud.Certif
open Rust HashMap Storage

namespace GetCertificateQuery

def sequesterRevokedServiceCertificates := noFilter .sequesterRevokedService

end GetCertificateQuery

namespace Storage
open GetCertificateQuery

theorem selects_sequesterRevokedServices :
    Selects sequesterRevokedServiceCertificates isSequesterRevokedService
      (fun c => .sequester (.revokedService c)) (fun _ => True) :=
  reads_sequesterRevokedService.noFilter

def getRealmLastKeyRotationCertificate (storage : Storage) (upTo : UpTo) (id : VlobID) :=
  storage.getMaybe (realmKeyRotationCertificates id) upTo isRealmKeyRotation

def getSequesterRevokedServiceCertificates (storage : Storage) (upTo : UpTo) :
    Except String (List SequesterRevokedServiceCertificate) := do
  match ← storage.getSequesterAuthorityCertificate with
  | none => return []
  | some _ => storage.getMultiple sequesterRevokedServiceCertificates upTo isSequesterRevokedService

end Storage

inductive RealmNeeds where
  | nothing
  | keyRotationOnly (currentKeyIndex : Option Nat)
  | unshareThenKeyRotation (currentKeyIndex : Option Nat) (revokedUsers : List UserID)
  deriving DecidableEq

section Needs
variable (lastKeyRotation : Option RealmKeyRotationCertificate)

def moreRecentThanLastKeyRotation (timestamp : DateTime) : Bool :=
  match lastKeyRotation with
  | some lastKeyRotation => lastKeyRotation.timestamp < timestamp
  | none => true

def currentKeyIndex : Option Nat := lastKeyRotation.map (·.keyIndex)

/-- A turn of the loop over the roles: the needs, and the users who have a role. -/
def countRole (state : RealmNeeds × Finset UserID) (role : RealmRoleCertificate) :
    RealmNeeds × Finset UserID :=
  match role.role with
  | some _ => (state.1, insert role.userId state.2)
  | none =>
    (if moreRecentThanLastKeyRotation lastKeyRotation role.timestamp then
      .keyRotationOnly (currentKeyIndex lastKeyRotation) else state.1, state.2.erase role.userId)

def addRevoked (storage : Storage) (needs : RealmNeeds) (userId : UserID) :
    Except String RealmNeeds := do
  match ← storage.getRevokedUserCertificate .current userId with
  | none => return needs
  | some _ =>
    match needs with
    | .unshareThenKeyRotation index revokedUsers =>
      return .unshareThenKeyRotation index (revokedUsers ++ [userId])
    | _ => return .unshareThenKeyRotation (currentKeyIndex lastKeyRotation) [userId]

def RealmNeeds.sortUsers : RealmNeeds → RealmNeeds
  | .unshareThenKeyRotation index revokedUsers =>
    .unshareThenKeyRotation index (revokedUsers.insertionSort fun a b => a.uuid ≤ b.uuid)
  | needs => needs

/-- The loops over the sequester services and over the revoked ones. -/
def checkSequesterDates (timestamps : List DateTime) : RealmNeeds :=
  if timestamps.any (moreRecentThanLastKeyRotation lastKeyRotation) then
    .keyRotationOnly (currentKeyIndex lastKeyRotation)
  else .nothing

end Needs

/-- The users are walked through in the order of the hash set. -/
def getRealmNeeds (order : HashOrder UserID) (storage : Storage) (realmId : VlobID) :
    Except String RealmNeeds := do
  let lastKeyRotation ← storage.getRealmLastKeyRotationCertificate .current realmId
  let roles ← storage.getRealmRoles .current realmId
  let (needs, currentUsersWithRole) := roles.foldl (countRole lastKeyRotation) (.nothing, ∅)
  let needs ← (order.list currentUsersWithRole).foldlM (addRevoked lastKeyRotation storage) needs
  let needs := needs.sortUsers
  let needs ← if needs = .nothing then do
      let services ← storage.getSequesterServiceCertificates .current
      pure (checkSequesterDates lastKeyRotation (services.map (·.timestamp)))
    else pure needs
  if needs = .nothing then do
    let revokedServices ← storage.getSequesterRevokedServiceCertificates .current
    return checkSequesterDates lastKeyRotation (revokedServices.map (·.timestamp))
  else return needs

section Loops
variable {lastKeyRotation : Option RealmKeyRotationCertificate} {storage : Storage}

/-- The users whose last role certificate gives a role. -/
def usersWithRole (roles : List RealmRoleCertificate) : Finset UserID :=
  roles.foldl (fun users role =>
    if role.role.isSome then insert role.userId users else users.erase role.userId) ∅

theorem foldl_countRole (roles : List RealmRoleCertificate) :
    roles.foldl (countRole lastKeyRotation) (.nothing, ∅) =
      (if ∃ role ∈ roles, role.role = none ∧
          moreRecentThanLastKeyRotation lastKeyRotation role.timestamp = true then
        .keyRotationOnly (currentKeyIndex lastKeyRotation) else .nothing, usersWithRole roles) := by
  induction roles using List.reverseRecOn with
  | nil => simp [usersWithRole]
  | append_singleton rest role ih =>
    have users : usersWithRole (rest ++ [role]) =
        if role.role.isSome then insert role.userId (usersWithRole rest)
        else (usersWithRole rest).erase role.userId := by
      rw [usersWithRole, List.foldl_append]
      rfl
    rw [List.foldl_append, ih, users]
    simp only [List.foldl_cons, List.foldl_nil, countRole]
    cases isRole : role.role with
    | some _ => simp [isRole]
    | none =>
      by_cases recent : moreRecentThanLastKeyRotation lastKeyRotation role.timestamp = true
      · simp [isRole, recent]
      · simp [isRole, recent]

/-- The needs with revoked users found so far. -/
def withRevoked (lastKeyRotation : Option RealmKeyRotationCertificate) (needs : RealmNeeds)
    (found : List UserID) : RealmNeeds :=
  if found = [] then needs else .unshareThenKeyRotation (currentKeyIndex lastKeyRotation) found

variable {revoked : UserID → Option RevokedUserCertificate}
  (answers : ∀ userId, storage.getRevokedUserCertificate .current userId = .ok (revoked userId))
include answers

theorem foldlM_addRevoked {needs : RealmNeeds}
    (other : ∀ index users, needs ≠ .unshareThenKeyRotation index users)
    (users found : List UserID) :
    users.foldlM (addRevoked lastKeyRotation storage) (withRevoked lastKeyRotation needs found) =
      .ok (withRevoked lastKeyRotation needs
        (found ++ users.filter fun userId => (revoked userId).isSome)) := by
  induction users generalizing found with
  | nil =>
    rw [List.filter_nil, List.append_nil]
    rfl
  | cons userId rest ih =>
    have turn : addRevoked lastKeyRotation storage (withRevoked lastKeyRotation needs found) userId =
        .ok (withRevoked lastKeyRotation needs
          (found ++ [userId].filter fun userId => (revoked userId).isSome)) := by
      apply bind_eq_ok.mpr
      refine ⟨revoked userId, answers userId, ?_⟩
      cases isRevoked : revoked userId with
      | none => simp [isRevoked, pure, Except.pure]
      | some certif =>
        by_cases first : found = []
        · have isOther := other
          cases needs with
          | unshareThenKeyRotation index users => exact absurd rfl (other index users)
          | _ => simp [withRevoked, first, isRevoked, pure, Except.pure]
        · simp [withRevoked, first, isRevoked, pure, Except.pure]
    rw [List.foldlM_cons]
    apply bind_eq_ok.mpr
    refine ⟨_, turn, ?_⟩
    rw [ih, List.append_assoc, ← List.filter_append, List.singleton_append]

end Loops

section Spec
variable {order : HashOrder UserID} {storage : Storage} {realmId : VlobID}
  {last : Option RealmKeyRotationCertificate} {roles : List RealmRoleCertificate}
  {revoked : UserID → Option RevokedUserCertificate} {services : List SequesterServiceCertificate}
  {revokedServices : List SequesterRevokedServiceCertificate}

/-- What the needs say of the roles, the revoked users and the dates of the sequester topic. -/
structure NeedsOf (last : Option RealmKeyRotationCertificate) (roles : List RealmRoleCertificate)
    (revoked : UserID → Option RevokedUserCertificate) (dates : List DateTime)
    (needs : RealmNeeds) : Prop where
  nothing : needs = .nothing ↔ (∀ userId ∈ usersWithRole roles, revoked userId = none) ∧
    (∀ role ∈ roles, role.role = none → moreRecentThanLastKeyRotation last role.timestamp = false) ∧
    ∀ date ∈ dates, moreRecentThanLastKeyRotation last date = false
  unshare : ∀ index users, needs = .unshareThenKeyRotation index users →
    users.Nodup ∧ ∀ userId, userId ∈ users ↔ userId ∈ usersWithRole roles ∧ (revoked userId).isSome

theorem checkSequesterDates_nothing {dates : List DateTime} :
    checkSequesterDates last dates = .nothing ↔
      ∀ date ∈ dates, moreRecentThanLastKeyRotation last date = false := by
  unfold checkSequesterDates
  split
  · rename_i recent
    obtain ⟨date, member, isRecent⟩ := List.any_eq_true.mp recent
    simp only [reduceCtorEq, false_iff]
    intro none
    rw [none date member] at isRecent
    cases isRecent
  · rename_i none
    simpa using none

theorem checkSequesterDates_ne_unshare {dates : List DateTime} {index : Option Nat}
    {users : List UserID} :
    checkSequesterDates last dates ≠ .unshareThenKeyRotation index users := by
  unfold checkSequesterDates
  split
  · simp
  · simp

theorem sortUsers_withRevoked {needs : RealmNeeds} {found : List UserID}
    (other : ∀ index users, needs ≠ .unshareThenKeyRotation index users) :
    (withRevoked last needs found).sortUsers = if found = [] then needs else
      .unshareThenKeyRotation (currentKeyIndex last)
        (found.insertionSort fun a b => a.uuid ≤ b.uuid) := by
  unfold withRevoked
  split
  · cases needs with
    | unshareThenKeyRotation index users => exact absurd rfl (other index users)
    | _ => rfl
  · rfl

/-- The needs that the roles and the revoked users alone give. -/
def needsOfUsers (order : HashOrder UserID) (last : Option RealmKeyRotationCertificate)
    (roles : List RealmRoleCertificate) (revoked : UserID → Option RevokedUserCertificate) :
    RealmNeeds :=
  (withRevoked last (roles.foldl (countRole last) (.nothing, ∅)).1
    ((order.list (usersWithRole roles)).filter fun userId => (revoked userId).isSome)).sortUsers

theorem getRealmNeeds_eq
    (isLast : storage.getRealmLastKeyRotationCertificate .current realmId = .ok last)
    (isRoles : storage.getRealmRoles .current realmId = .ok roles)
    (answers : ∀ userId, storage.getRevokedUserCertificate .current userId = .ok (revoked userId))
    (isServices : storage.getSequesterServiceCertificates .current = .ok services)
    (isRevoked : storage.getSequesterRevokedServiceCertificates .current = .ok revokedServices) :
    getRealmNeeds order storage realmId = .ok (
      if needsOfUsers order last roles revoked ≠ .nothing then needsOfUsers order last roles revoked
      else if checkSequesterDates last (services.map (·.timestamp)) ≠ .nothing then
        checkSequesterDates last (services.map (·.timestamp))
      else checkSequesterDates last (revokedServices.map (·.timestamp))) := by
  have members := @foldl_countRole last roles
  have other : ∀ index users, (roles.foldl (countRole last) (.nothing, ∅)).1 ≠
      .unshareThenKeyRotation index users := by
    intro index users
    rw [members]
    dsimp only
    split
    · simp
    · simp
  have loop := @foldlM_addRevoked last storage revoked answers _ other
    (order.list (usersWithRole roles)) []
  unfold getRealmNeeds
  apply bind_eq_ok.mpr
  refine ⟨last, isLast, bind_eq_ok.mpr ⟨roles, isRoles, ?_⟩⟩
  have users : (roles.foldl (countRole last) (.nothing, ∅)).2 = usersWithRole roles := by
    rw [members]
  rw [← users] at loop
  apply bind_eq_ok.mpr
  refine ⟨_, loop, ?_⟩
  rw [users, List.nil_append]
  have same : ((withRevoked last (roles.foldl (countRole last) (.nothing, ∅)).1
      ((order.list (usersWithRole roles)).filter fun userId => (revoked userId).isSome)).sortUsers) =
      needsOfUsers order last roles revoked := rfl
  dsimp only
  rw [same]
  by_cases first : needsOfUsers order last roles revoked = .nothing
  · rw [if_pos first, if_neg (not_not.mpr first)]
    apply bind_eq_ok.mpr
    refine ⟨services, isServices, ?_⟩
    rw [pure_bind]
    by_cases second : checkSequesterDates last (services.map (·.timestamp)) = .nothing
    · rw [if_pos second, if_neg (not_not.mpr second)]
      rw [isRevoked]
      rfl
    · rw [if_neg second, if_pos second]
      rfl
  · rw [if_neg first, if_pos first]
    apply bind_eq_ok.mpr
    refine ⟨_, rfl, ?_⟩
    rw [if_neg first]
    rfl

theorem needsOfUsers_eq : needsOfUsers order last roles revoked =
    if (order.list (usersWithRole roles)).filter (fun userId => (revoked userId).isSome) = [] then
      if ∃ role ∈ roles, role.role = none ∧
          moreRecentThanLastKeyRotation last role.timestamp = true then
        .keyRotationOnly (currentKeyIndex last) else .nothing
    else .unshareThenKeyRotation (currentKeyIndex last)
      (((order.list (usersWithRole roles)).filter fun userId =>
        (revoked userId).isSome).insertionSort fun a b => a.uuid ≤ b.uuid) := by
  unfold needsOfUsers
  rw [foldl_countRole, sortUsers_withRevoked]
  intro index users
  dsimp only
  split
  · simp
  · simp

theorem getRealmNeeds_spec
    (isLast : storage.getRealmLastKeyRotationCertificate .current realmId = .ok last)
    (isRoles : storage.getRealmRoles .current realmId = .ok roles)
    (answers : ∀ userId, storage.getRevokedUserCertificate .current userId = .ok (revoked userId))
    (isServices : storage.getSequesterServiceCertificates .current = .ok services)
    (isRevoked : storage.getSequesterRevokedServiceCertificates .current = .ok revokedServices) :
    ∃ needs, getRealmNeeds order storage realmId = .ok needs ∧ NeedsOf last roles revoked
      (services.map (·.timestamp) ++ revokedServices.map (·.timestamp)) needs := by
  refine ⟨_, getRealmNeeds_eq isLast isRoles answers isServices isRevoked, ?_⟩
  have noRevoked : (order.list (usersWithRole roles)).filter
      (fun userId => (revoked userId).isSome) = [] ↔
        ∀ userId ∈ usersWithRole roles, revoked userId = none := by
    simp [List.filter_eq_nil_iff, order.mem_iff]
  have noUnshare : (¬ ∃ role ∈ roles, role.role = none ∧
      moreRecentThanLastKeyRotation last role.timestamp = true) ↔
        ∀ role ∈ roles, role.role = none →
          moreRecentThanLastKeyRotation last role.timestamp = false := by
    simp
  constructor
  · rw [List.forall_mem_append, ← checkSequesterDates_nothing, ← checkSequesterDates_nothing,
      ← noRevoked, ← noUnshare, needsOfUsers_eq]
    split
    · split
      · simp_all
      · rename_i none unshares
        simp only [none, unshares, not_false_eq_true, true_and, ne_eq, not_true_eq_false, if_false]
        by_cases first : checkSequesterDates last (services.map (·.timestamp)) = .nothing
        · simp [first]
        · simp [first]
    · simp_all
  · intro index users same
    split at same
    · rw [needsOfUsers_eq] at same
      split at same
      · split at same
        · cases same
        · cases same
      · cases same
        constructor
        · exact ((order.nodup _).filter _).perm (List.perm_insertionSort _ _).symm
        · intro userId
          rw [List.mem_insertionSort, List.mem_filter, order.mem_iff]
    · split at same
      · exact absurd same checkSequesterDates_ne_unshare
      · exact absurd same checkSequesterDates_ne_unshare

end Spec

end ParsecCloud.Certif

import ParsecCloud.Lib.DatedLog
import ParsecCloud.Server.Blocks
import ParsecCloud.Server.VlobWrites
import Mathlib.Algebra.GroupWithZero.Nat

/- The statistics of an organization at a date, as the in-memory server (memory/organization.py) and
   the PostgreSQL one (organization_stats.py) compute them, and the rows that the operations which
   succeed add to the tables of the latter. -/
namespace ParsecCloud.Server
open Certif DatedLog Runs MemoryOrganization

structure OrganizationStatsProfileDetailItem where
  profile : UserProfile
  active : Nat
  revoked : Nat
  deriving DecidableEq

structure OrganizationStats where
  dataSize : Nat
  metadataSize : Nat
  realms : Nat
  users : Nat
  activeUsers : Nat
  usersPerProfileDetail : List OrganizationStatsProfileDetailItem
  deriving DecidableEq

inductive OrganizationStatsBadOutcome where
  | organizationNotFound
  deriving DecidableEq

/-- UserProfile.VALUES -/
def userProfileValues : List UserProfile := [.admin, .standard, .outsider]

section Counts

structure ProfileCounts where
  active : Nat
  revoked : Nat

/-- What the loops over the users add up. -/
structure UserCounts where
  users : Nat
  activeUsers : Nat
  perProfile : UserProfile → ProfileCounts

def UserCounts.zero : UserCounts := ⟨0, 0, fun _ => ⟨0, 0⟩⟩

def UserCounts.add (counts : UserCounts) (profile : UserProfile) (revoked : Bool) : UserCounts :=
  let detail := counts.perProfile profile
  if revoked then
    { counts with
      users := counts.users + 1
      perProfile := Function.update counts.perProfile profile
        { detail with revoked := detail.revoked + 1 } }
  else
    { users := counts.users + 1
      activeUsers := counts.activeUsers + 1
      perProfile := Function.update counts.perProfile profile
        { detail with active := detail.active + 1 } }

def UserCounts.detail (counts : UserCounts) : List OrganizationStatsProfileDetailItem :=
  userProfileValues.map fun profile =>
    ⟨profile, (counts.perProfile profile).active, (counts.perProfile profile).revoked⟩

end Counts

section Memory

/-- A user that is revoked at the date. -/
def MemoryUser.isRevokedAt (user : MemoryUser) (at_ : DateTime) : Bool :=
  user.revoked.any fun revoked => decide (revoked.1.timestamp ≤ at_)

namespace MemoryOrganization
variable (org : MemoryOrganization) (at_ : DateTime)

def userCounts : UserCounts :=
  org.users.values.foldl (fun counts user =>
    if user.cooked.timestamp > at_ then counts
    else counts.add user.currentProfile (user.isRevokedAt at_)) .zero

def realmCount : Nat :=
  org.realms.values.foldl (fun realms realm =>
    if realm.createdOn ≤ at_ then realms + 1 else realms) 0

/-- The size of the atoms of a list that are there at the date. -/
def atomsSize (atoms : List MemoryVlobAtom) : Nat :=
  ((atoms.filter fun atom => atom.createdOn ≤ at_).map fun atom => atom.blob.length).sum

def metadataSize : Nat :=
  (org.realms.values.map fun realm =>
    (realm.vlobs.values.map fun place => atomsSize at_ (org.atomLists.getD place [])).sum).sum

end MemoryOrganization

def blocksSize (at_ : DateTime) (blocks : Dict BlockID MemoryBlock) : Nat :=
  blocks.values.foldl (fun dataSize block =>
    if block.createdOn ≤ at_ then dataSize + block.blockSize else dataSize) 0

/-- _stats -/
def MemoryOrganization.stats (org : MemoryOrganization) (createdOn : DateTime)
    (blocks : Dict BlockID MemoryBlock) (at_ : DateTime) :
    Except OrganizationStatsBadOutcome OrganizationStats :=
  if createdOn > at_ then .error .organizationNotFound
  else
    let counts := org.userCounts at_
    .ok ⟨blocksSize at_ blocks, org.metadataSize at_, org.realmCount at_, counts.users,
      counts.activeUsers, counts.detail⟩

end Memory

section Tables

structure UserRow where
  userId : UserID
  createdOn : DateTime
  revokedOn : Option DateTime
  initialProfile : UserProfile
  deriving DecidableEq

structure ProfileRow where
  user : UserID
  profile : UserProfile
  certifiedOn : DateTime
  deriving DecidableEq

structure RealmUserRoleRow where
  realm : VlobID
  certifiedOn : DateTime
  deriving DecidableEq

structure VlobAtomSizeRow where
  realm : VlobID
  size : Nat
  createdOn : DateTime
  deletedOn : Option DateTime
  deriving DecidableEq

structure BlockSizeRow where
  blockId : BlockID
  size : Nat
  createdOn : DateTime
  deletedOn : Option DateTime
  deriving DecidableEq

/-- The tables of one organization, with the columns that the query reads. -/
structure StatsTables where
  user : List UserRow
  profile : List ProfileRow
  realm : List VlobID
  realmUserRole : List RealmUserRoleRow
  vlobAtom : List VlobAtomSizeRow
  block : List BlockSizeRow

namespace StatsTables
variable (tables : StatsTables) (at_ : DateTime)

/-- The profile of the last row of the user, or else the initial one. -/
def profileOf (row : UserRow) : UserProfile :=
  let updates := tables.profile.filter fun update => update.user = row.userId
  match (sortBy ProfileRow.certifiedOn updates).getLast? with
  | some update => update.profile
  | none => row.initialProfile

def organizationUsers : List (Option DateTime × UserProfile) :=
  (tables.user.filter fun row => row.createdOn ≤ at_).map fun row =>
    (row.revokedOn, tables.profileOf row)

/-- The realms joined with their roles are counted once each. -/
def organizationRealms : Nat :=
  let joined := tables.realm.flatMap fun realm =>
    (tables.realmUserRole.filter fun role => role.realm = realm).map fun role => (realm, role)
  ((joined.filter fun row => row.2.certifiedOn ≤ at_).map Prod.fst).dedup.length

/-- What is deleted by the date is left out. -/
def isThere (createdOn : DateTime) (deletedOn : Option DateTime) : Bool :=
  decide (createdOn ≤ at_) && deletedOn.all fun deletedOn => decide (deletedOn > at_)

def organizationMetadataSize : Nat :=
  ((tables.vlobAtom.filter fun atom =>
    atom.realm ∈ tables.realm ∧ isThere at_ atom.createdOn atom.deletedOn).map (·.size)).sum

def organizationDataSize : Nat :=
  ((tables.block.filter fun block => isThere at_ block.createdOn block.deletedOn).map (·.size)).sum

def userCounts : UserCounts :=
  (tables.organizationUsers at_).foldl (fun counts user => counts.add user.2 user.1.isSome) .zero

/-- _get_organization_stats -/
def stats (createdOn : DateTime) : Except OrganizationStatsBadOutcome OrganizationStats :=
  if createdOn ≤ at_ then
    let counts := tables.userCounts at_
    .ok ⟨tables.organizationDataSize at_, tables.organizationMetadataSize at_,
      tables.organizationRealms at_, counts.users, counts.activeUsers, counts.detail⟩
  else .error .organizationNotFound

end StatsTables

end Tables

section Changes

/-- An operation that succeeds, by what the statistics are about. -/
inductive StatsChange where
  | user (certif : UserCertificate)
  | profile (certif : UserUpdateCertificate)
  | revocation (certif : RevokedUserCertificate)
  | realm (now : DateTime) (certif : RealmRoleCertificate)
  | role (certif : RealmRoleCertificate)
  | atom (write : VlobWrite)
  | block (call : BlockCreate)
  | other

namespace StatsChange

/-- The date of the operation: that of its certificate, of the vlob, or of the call for a block. -/
def date : StatsChange → Option DateTime
  | .user certif => some certif.timestamp
  | .profile certif => some certif.timestamp
  | .revocation certif => some certif.timestamp
  | .realm _ certif => some certif.timestamp
  | .role certif => some certif.timestamp
  | .atom write => some write.timestamp
  | .block call => some call.now
  | .other => none

def ofContent {α : Type} (uploaded : Uploaded α) (change : α → StatsChange) : StatsChange :=
  uploaded.content?.elim .other change

end StatsChange

def Operation.change : Operation → StatsChange
  | .createUser _ _ _ u _ _ _ => .ofContent u fun payload => .user payload.certif
  | .revokeUser _ _ _ certificate => .ofContent certificate .revocation
  | .updateUser _ _ _ certificate => .ofContent certificate .profile
  | .createRealm now _ _ certificate => .ofContent certificate (.realm now)
  | .shareRealm _ _ _ certificate _ _ => .ofContent certificate .role
  | .unshareRealm _ _ _ certificate => .ofContent certificate .role
  | _ => .other

namespace StatsTables

/-- The UPDATE of a revocation. -/
def revokeRow (certif : RevokedUserCertificate) (row : UserRow) : UserRow :=
  if row.userId = certif.userId then { row with revokedOn := some certif.timestamp } else row

/-- The rows of an operation that succeeds. -/
def record (tables : StatsTables) : StatsChange → StatsTables
  | .user certif =>
    { tables with user := tables.user ++ [⟨certif.userId, certif.timestamp, none, certif.profile⟩] }
  | .profile certif =>
    { tables with
      profile := tables.profile ++ [⟨certif.userId, certif.newProfile, certif.timestamp⟩] }
  | .revocation certif => { tables with user := tables.user.map (revokeRow certif) }
  | .realm _ certif =>
    { tables with
      realm := tables.realm ++ [certif.realmId]
      realmUserRole := tables.realmUserRole ++ [⟨certif.realmId, certif.timestamp⟩] }
  | .role certif =>
    { tables with
      realmUserRole := tables.realmUserRole ++ [⟨certif.realmId, certif.timestamp⟩] }
  | .atom write =>
    { tables with
      vlobAtom := tables.vlobAtom ++ [⟨write.realmId, write.blob.length, write.timestamp, none⟩] }
  | .block call =>
    { tables with
      block := tables.block ++ [⟨call.blockId, call.block.length, call.now, none⟩] }
  | .other => tables

end StatsTables

/-- One organization in the memory of a server and in the tables of another one, with the same
    operations. -/
structure StatsState where
  createdOn : DateTime
  memory : State
  blocks : Dict BlockID MemoryBlock
  tables : StatsTables

inductive StatsEvent where
  | memory (event : Event)
  | block (call : BlockCreate)

/-- What an event of the server has changed. -/
def Event.changes (s s' : State) : Event → List StatsChange
  | .operation op => [op.change]
  | _ => (s'.succeeded.drop s.succeeded.length).map .atom

inductive StatsStep (s : StatsState) : StatsEvent → StatsState → Prop where
  | memory {event : Event} {memory : State} (step : Step s.memory event memory) :
      StatsStep s (.memory event) { s with
        memory := memory
        tables := (event.changes s.memory memory).foldl StatsTables.record s.tables }
  | block (call : BlockCreate) :
      StatsStep s (.block call) { s with
        blocks := s.blocks.set call.blockId call.registered
        tables := s.tables.record (.block call) }

namespace StatsState
variable (s : StatsState) (at_ : DateTime)

def memoryStats : Except OrganizationStatsBadOutcome OrganizationStats :=
  s.memory.org.stats s.createdOn s.blocks at_

def tablesStats : Except OrganizationStatsBadOutcome OrganizationStats :=
  s.tables.stats at_ s.createdOn

end StatsState

end Changes

end ParsecCloud.Server

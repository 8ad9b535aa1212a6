import ParsecCloud.Server.OrganizationStats
import ParsecCloud.Server.VlobHistory
import Mathlib.Algebra.BigOperators.Group.List.Basic

/- The statistics at a date are the same from the memory and from the tables, when the tables have
   the rows of what is in memory and no realm or user is seen by one of them only. -/
namespace ParsecCloud.Server
open Certif DatedLog MemoryOrganization

section Sums
variable {α κ : Type} [DecidableEq κ]

theorem sum_single {keys : List κ} {k : κ} (nodup : keys.Nodup) (isKey : k ∈ keys) (n : Nat) :
    (keys.map fun other => if k = other then n else 0).sum = n := by
  induction keys with
  | nil => cases isKey
  | cons first rest ih =>
    obtain ⟨notRest, nodupRest⟩ := List.nodup_cons.mp nodup
    rw [List.map_cons, List.sum_cons]
    by_cases same : k = first
    · have nothing : (rest.map fun other => if k = other then n else 0).sum = 0 := by
        apply List.sum_eq_zero
        intro size isSize
        obtain ⟨other, isOther, rfl⟩ := List.mem_map.mp isSize
        have differs : k ≠ other := by
          rintro rfl
          exact notRest (same ▸ isOther)
        rw [if_neg differs]
      rw [if_pos same, nothing, Nat.add_zero]
    · rw [if_neg same, Nat.zero_add]
      exact ih nodupRest ((List.mem_cons.mp isKey).resolve_left same)

theorem sum_by_key {keys : List κ} (nodup : keys.Nodup) (key : α → κ) (size : α → Nat)
    {entries : List α} (known : ∀ entry ∈ entries, key entry ∈ keys) :
    (keys.map fun k => ((entries.filter fun entry => key entry = k).map size).sum).sum =
      (entries.map size).sum := by
  induction entries with
  | nil => simp
  | cons entry rest ih =>
    have later := ih fun other isOther => known other (List.mem_cons_of_mem entry isOther)
    have first := sum_single nodup (known entry List.mem_cons_self) (size entry)
    have split : ∀ k, (((entry :: rest).filter fun entry => key entry = k).map size).sum =
        (if key entry = k then size entry else 0) +
          ((rest.filter fun entry => key entry = k).map size).sum := by
      intro k
      by_cases same : key entry = k
      · simp [same]
      · simp [same]
    simp only [split]
    rw [List.sum_map_add, first, later, List.map_cons, List.sum_cons]

theorem foldl_add_if (entries : List α) (p : α → Prop) [DecidablePred p] (size : α → Nat)
    (n : Nat) :
    entries.foldl (fun total entry => if p entry then total + size entry else total) n =
      n + ((entries.filter fun entry => p entry).map size).sum := by
  induction entries generalizing n with
  | nil => simp
  | cons entry rest ih =>
    rw [List.foldl_cons, ih]
    by_cases met : p entry
    · simp [met, Nat.add_assoc]
    · simp [met]

end Sums

section Mirror
variable (at_ : DateTime)

def userRow (userId : UserID) (user : MemoryUser) : UserRow :=
  ⟨userId, user.cooked.timestamp, user.revoked.map fun revoked => revoked.1.timestamp,
    user.cooked.profile⟩

def profileRow (userId : UserID) (update : UserUpdateCertificate × List Byte) : ProfileRow :=
  ⟨userId, update.1.newProfile, update.1.timestamp⟩

def roleRow (realmId : VlobID) (role : RealmRoleCertificate × List Byte) : RealmUserRoleRow :=
  ⟨realmId, role.1.timestamp⟩

def atomSizeRow (write : VlobWrite) : VlobAtomSizeRow :=
  ⟨write.realmId, write.blob.length, write.timestamp, none⟩

def blockRow (block : MemoryBlock) : BlockSizeRow :=
  ⟨block.blockId, block.blockSize, block.createdOn, none⟩

/-- The rows of a user, whose updates are dated. Who was there at the date and is revoked was so by
    then. -/
structure UserMirrored (last : DateTime) (tables : StatsTables) (userId : UserID)
    (user : MemoryUser) : Prop where
  updates : (tables.profile.filter fun row => row.user = userId) =
    user.profileUpdates.map (profileRow userId)
  ordered : user.profileUpdates.Pairwise fun a b => a.1.timestamp < b.1.timestamp
  dated : ∀ update ∈ user.profileUpdates, update.1.timestamp ≤ last
  revoked : user.cooked.timestamp ≤ at_ → ∀ revoked, user.revoked = some revoked →
    revoked.1.timestamp ≤ at_

structure UsersMirrored (org : MemoryOrganization) (tables : StatsTables) : Prop where
  rows : tables.user = org.users.items.map fun item => userRow item.1 item.2
  known : ∀ row ∈ tables.profile, (org.users.get? row.user).isSome = true
  each : ∀ userId user, org.users.get? userId = some user →
    UserMirrored at_ (org.lastTimestamp .common) tables userId user

/-- The rows of a realm. Its first role and itself are on one side of the date. -/
structure RealmMirrored (tables : StatsTables) (realmId : VlobID) (realm : MemoryRealm) :
    Prop where
  roles : (tables.realmUserRole.filter fun row => row.realm = realmId) =
    realm.roles.map (roleRow realmId)
  first : ∃ first rest, realm.roles = first :: rest ∧
    (realm.createdOn ≤ at_ ↔ first.1.timestamp ≤ at_) ∧
    ∀ role ∈ rest, first.1.timestamp ≤ role.1.timestamp

structure RealmsMirrored (org : MemoryOrganization) (tables : StatsTables) : Prop where
  rows : tables.realm = org.realms.keys
  known : ∀ row ∈ tables.realmUserRole, row.realm ∈ tables.realm
  each : ∀ realmId realm, org.realms.get? realmId = some realm →
    RealmMirrored at_ tables realmId realm

structure Mirrored (s : StatsState) : Prop where
  vlobs : VlobsOrdered s.memory
  keys : KeysKept s.memory.org
  users : UsersMirrored at_ s.memory.org s.tables
  realms : RealmsMirrored at_ s.memory.org s.tables
  atoms : s.tables.vlobAtom = s.memory.succeeded.map atomSizeRow
  blocks : s.tables.block = s.blocks.values.map blockRow

variable {at_} {org : MemoryOrganization} {tables : StatsTables} {s : StatsState}

theorem UsersMirrored.profile (users : UsersMirrored at_ org tables) {userId : UserID}
    {user : MemoryUser} (isUser : org.users.get? userId = some user) :
    tables.profileOf (userRow userId user) = user.currentProfile := by
  have ordered : (user.profileUpdates.map (profileRow userId)).Pairwise
      fun a b => a.certifiedOn < b.certifiedOn :=
    List.pairwise_map.mpr (users.each userId user isUser).ordered
  have last : (sortBy ProfileRow.certifiedOn (tables.profile.filter fun update =>
      update.user = (userRow userId user).userId)).getLast? =
      user.profileUpdates.getLast?.map (profileRow userId) := by
    change (sortBy _ (tables.profile.filter fun row => row.user = userId)).getLast? = _
    rw [(users.each userId user isUser).updates, sortBy_eq (List.Perm.refl _) ordered,
      List.getLast?_map]
  unfold StatsTables.profileOf
  simp only [last, MemoryUser.currentProfile]
  cases user.profileUpdates.getLast? with
  | none => rfl
  | some update => rfl

theorem UsersMirrored.isRevokedAt (users : UsersMirrored at_ org tables) {userId : UserID}
    {user : MemoryUser} (isUser : org.users.get? userId = some user)
    (there : user.cooked.timestamp ≤ at_) :
    (userRow userId user).revokedOn.isSome = user.isRevokedAt at_ := by
  unfold userRow MemoryUser.isRevokedAt
  cases revoked : user.revoked with
  | none => rfl
  | some revoked =>
    have byThen := (users.each userId user isUser).revoked there _ ‹_›
    simp [byThen]

theorem UsersMirrored.counts (users : UsersMirrored at_ org tables) :
    tables.userCounts at_ = org.userCounts at_ := by
  have skips : org.userCounts at_ =
      ((org.users.values.filter fun user => user.cooked.timestamp ≤ at_).map fun user =>
        (user.currentProfile, user.isRevokedAt at_)).foldl
          (fun counts user => counts.add user.1 user.2) .zero := by
    rw [List.foldl_map, List.foldl_filter, MemoryOrganization.userCounts]
    congr 1
    funext counts user
    by_cases there : user.cooked.timestamp ≤ at_
    · simp [there]
    · simp [there]
  have sameUsers : (tables.organizationUsers at_).map (fun user => (user.2, user.1.isSome)) =
      (org.users.values.filter fun user => user.cooked.timestamp ≤ at_).map fun user =>
        (user.currentProfile, user.isRevokedAt at_) := by
    rw [StatsTables.organizationUsers, users.rows, Dict.values, List.filter_map, List.filter_map,
      List.map_map, List.map_map, List.map_map]
    apply List.map_congr_left
    intro item member
    obtain ⟨isItem, there⟩ := List.mem_filter.mp member
    have isUser := Dict.get?_eq_some_iff.mpr isItem
    have byThen : item.2.cooked.timestamp ≤ at_ := by simpa [userRow] using there
    simp only [Function.comp, users.profile isUser, users.isRevokedAt isUser byThen]
  rw [skips, ← sameUsers, List.foldl_map, StatsTables.userCounts]

theorem organizationRealms_eq (nodup : tables.realm.Nodup) : tables.organizationRealms at_ =
    (tables.realm.filter fun realm => tables.realmUserRole.any fun role =>
      decide (role.realm = realm) && decide (role.certifiedOn ≤ at_)).length := by
  apply List.Perm.length_eq
  rw [List.perm_ext_iff_of_nodup (List.nodup_dedup _) (nodup.filter _)]
  intro realm
  simp only [List.mem_dedup, List.mem_map, List.mem_filter, List.mem_flatMap, List.any_eq_true,
    Bool.and_eq_true, decide_eq_true_eq]
  constructor
  · rintro ⟨row, ⟨⟨other, isRealm, role, ⟨isRole, sameRealm⟩, rfl⟩, byThen⟩, rfl⟩
    exact ⟨isRealm, role, isRole, sameRealm, byThen⟩
  · rintro ⟨isRealm, role, isRole, sameRealm, byThen⟩
    exact ⟨(realm, role), ⟨⟨realm, isRealm, role, ⟨isRole, sameRealm⟩, rfl⟩, byThen⟩, rfl⟩

theorem RealmsMirrored.createdOn (realms : RealmsMirrored at_ org tables) {realmId : VlobID}
    {realm : MemoryRealm} (isRealm : org.realms.get? realmId = some realm) :
    (tables.realmUserRole.any fun role =>
      decide (role.realm = realmId) && decide (role.certifiedOn ≤ at_)) =
      decide (realm.createdOn ≤ at_) := by
  obtain ⟨first, rest, isRoles, sameSide, later⟩ := (realms.each realmId realm isRealm).first
  have anyRole : (tables.realmUserRole.any fun role =>
      decide (role.realm = realmId) && decide (role.certifiedOn ≤ at_)) =
      realm.roles.any fun role => decide (role.1.timestamp ≤ at_) := by
    rw [← List.any_filter, (realms.each realmId realm isRealm).roles, List.any_map]
    rfl
  rw [anyRole, isRoles, List.any_cons, Bool.eq_iff_iff, Bool.or_eq_true, List.any_eq_true,
    decide_eq_true_eq, decide_eq_true_eq, sameSide]
  constructor
  · rintro (byThen | ⟨role, isRole, byThen⟩)
    · exact byThen
    · exact (later role isRole).trans (of_decide_eq_true byThen)
  · exact .inl

theorem RealmsMirrored.count (realms : RealmsMirrored at_ org tables) :
    tables.organizationRealms at_ = org.realmCount at_ := by
  have counted : org.realmCount at_ =
      (org.realms.values.filter fun realm => realm.createdOn ≤ at_).length := by
    have total := foldl_add_if org.realms.values (fun realm => realm.createdOn ≤ at_)
      (fun _ => 1) 0
    rw [MemoryOrganization.realmCount]
    refine total.trans ?_
    simp
  have nodup : tables.realm.Nodup := realms.rows ▸ org.realms.unique
  rw [organizationRealms_eq nodup, counted, realms.rows, Dict.keys, Dict.values, List.filter_map,
    List.filter_map, List.length_map, List.length_map]
  congr 1
  apply List.filter_congr
  intro item isItem
  exact realms.createdOn (Dict.get?_eq_some_iff.mpr isItem)

theorem atomsSize_eq (atoms : List MemoryVlobAtom) : atomsSize at_ atoms =
    (atoms.map fun atom => if atom.createdOn ≤ at_ then atom.blob.length else 0).sum := by
  induction atoms with
  | nil => rfl
  | cons atom rest ih =>
    rw [List.map_cons, List.sum_cons, ← ih]
    by_cases there : atom.createdOn ≤ at_
    · simp [atomsSize, there]
    · simp [atomsSize, there]

theorem realm_atomsSize (vlobs : VlobsOrdered s.memory) {realmId : VlobID} {realm : MemoryRealm}
    (isRealm : s.memory.org.realms.get? realmId = some realm) :
    (realm.vlobs.values.map fun place =>
      atomsSize at_ (s.memory.org.atomLists.getD place [])).sum =
      atomsSize at_ realm.updatedAtoms := by
  have known : ∀ atom ∈ realm.updatedAtoms, atom.vlobId ∈ realm.vlobs.keys := by
    intro atom isAtom
    by_contra absent
    have inOrder := vlobs.inOrder realmId realm isRealm atom.vlobId
    rw [atomsOf_none (Dict.get?_eq_none_iff.mpr absent), List.filter_eq_nil_iff] at inOrder
    exact inOrder atom isAtom (decide_eq_true rfl)
  have grouped := sum_by_key realm.vlobs.unique MemoryVlobAtom.vlobId
    (fun atom => if atom.createdOn ≤ at_ then atom.blob.length else 0) known
  rw [atomsSize_eq, ← grouped, Dict.values, List.map_map, List.map_map]
  congr 1
  apply List.map_congr_left
  intro item isItem
  have isPlace := Dict.get?_eq_some_iff.mpr isItem
  simp only [Function.comp]
  rw [vlobs.inOrder realmId realm isRealm item.1, atomsOf_some isPlace, atomsSize_eq]

theorem metadataSize_eq (vlobs : VlobsOrdered s.memory) : s.memory.org.metadataSize at_ =
    atomsSize at_ (s.memory.succeeded.map (·.atom)) := by
  have known : ∀ write ∈ s.memory.succeeded, write.realmId ∈ s.memory.org.realms.keys := by
    intro write isWrite
    obtain ⟨realm, isRealm⟩ := vlobs.kept.writes.known write isWrite
    exact Dict.mem_keys_of_mem (Dict.get?_eq_some_iff.mp isRealm)
  have grouped := sum_by_key s.memory.org.realms.unique VlobWrite.realmId
    (fun write => if write.atom.createdOn ≤ at_ then write.atom.blob.length else 0) known
  rw [atomsSize_eq, List.map_map]
  refine Eq.trans ?_ grouped
  rw [MemoryOrganization.metadataSize, Dict.values, List.map_map, List.map_map]
  congr 1
  apply List.map_congr_left
  intro item isItem
  have isRealm := Dict.get?_eq_some_iff.mpr isItem
  simp only [Function.comp]
  rw [realm_atomsSize vlobs isRealm, (vlobs.kept.writes.realms item.1 item.2 isRealm).succeeded,
    atomsSize_eq, List.map_map]
  rfl

theorem Mirrored.metadataSize (mirrored : Mirrored at_ s) :
    s.tables.organizationMetadataSize at_ = s.memory.org.metadataSize at_ := by
  rw [metadataSize_eq mirrored.vlobs, atomsSize, StatsTables.organizationMetadataSize,
    mirrored.atoms, List.filter_map, List.filter_map, List.map_map, List.map_map]
  congr 2
  apply List.filter_congr
  intro write isWrite
  obtain ⟨realm, isRealm⟩ := mirrored.vlobs.kept.writes.known write isWrite
  have isKey := Dict.mem_keys_of_mem (Dict.get?_eq_some_iff.mp isRealm)
  change decide (write.realmId ∈ s.tables.realm ∧ (decide (write.timestamp ≤ at_) && true) = true) =
    decide (write.timestamp ≤ at_)
  rw [mirrored.realms.rows]
  simp [isKey]

theorem Mirrored.dataSize (mirrored : Mirrored at_ s) :
    s.tables.organizationDataSize at_ = blocksSize at_ s.blocks := by
  have total := foldl_add_if s.blocks.values (fun block => block.createdOn ≤ at_)
    (fun block => block.blockSize) 0
  rw [blocksSize, total, StatsTables.organizationDataSize, mirrored.blocks, List.filter_map,
    List.map_map, Nat.zero_add]
  congr 2
  apply List.filter_congr
  intro block _
  change (decide (block.createdOn ≤ at_) && true) = decide (block.createdOn ≤ at_)
  rw [Bool.and_true]

theorem Mirrored.agree (mirrored : Mirrored at_ s) : s.memoryStats at_ = s.tablesStats at_ := by
  unfold StatsState.memoryStats StatsState.tablesStats MemoryOrganization.stats StatsTables.stats
  by_cases tooRecent : s.createdOn > at_
  · rw [if_pos tooRecent, if_neg (not_le.mpr tooRecent)]
  · rw [if_neg tooRecent, if_pos (not_lt.mp tooRecent)]
    simp only [mirrored.users.counts, mirrored.realms.count, mirrored.metadataSize,
      mirrored.dataSize]

end Mirror

end ParsecCloud.Server

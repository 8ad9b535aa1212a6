import ParsecCloud.Server.PastStats
import ParsecCloud.Server.CertificateLogs

/- The statistics at a date along the runs. Both servers give the same ones, and what is dated after
   the date leaves them, but for the defects of the computations: the profiles are the current ones,
   the tables are not asked whether a user was revoked by then, and the memory dates a realm by its
   own clock and loses what a creation replaces. -/
namespace ParsecCloud.Server
open Certif Rust Runs DatedLog MemoryOrganization

section Agreement
variable {at_ : DateTime} {s s' : StatsState}

/-- Both servers keep the same of the event, on the same side of the date. -/
def Comparable (at_ : DateTime) (s : StatsState) : StatsEvent → Prop
  | .memory event => NoOverwrite s.memory event ∧
    ∀ op, event = .operation op → ComparableChange at_ s.memory.org op.change
  | .block call => s.blocks.get? call.blockId = none

/-- The writes of the call of an event. -/
def Event.written : Event → List VlobWrite
  | .operation _ => []
  | .request _ call => call.written
  | .accepted call => call.written
  | .rejected _ => []

/-- The operations of an event, which succeed at once, later or not at all. -/
def StatsEvent.operations : StatsEvent → List StatsChange
  | .memory (.operation op) => [op.change]
  | .memory event => event.written.map .atom
  | .block call => [.block call]

/-- A step changes the organization by an operation, or by the writes that it adds. -/
inductive EventChange (s s' : State) (event : Event) : Prop where
  | operation (op : Operation) (isEvent : event = .operation op) (ok : op.run s.org = .ok s'.org)
      (succeeded : s'.succeeded = s.succeeded)
  | store (call : Waiting) (valid : call.Valid s.org) (effect : StoreEffect s.org call s'.org)
      (succeeded : s'.succeeded = s.succeeded ++ call.written)
      (operations : StatsEvent.operations (.memory event) = call.written.map .atom)
      (changes : event.changes s s' = call.written.map .atom)
  | same (org : s'.org = s.org) (succeeded : s'.succeeded = s.succeeded)
      (changes : event.changes s s' = [])

theorem eventChange {s s' : State} {event : Event} (valid : StateValid s) (step : Step s event s') :
    EventChange s s' event := by
  cases step with
  | @operation org org' waiting succeeded op free ok => exact .operation op rfl ok rfl
  | waits checked free webhooks => exact .same rfl rfl (by simp [Event.changes])
  | @atOnce org org' waiting succeeded request call checked free noWebhook ok =>
    exact .store call checked.valid (Waiting.store_effect ok) rfl rfl (by simp [Event.changes])
  | @accepted org org' before after succeeded call ok =>
    exact .store call (valid.valid call (by simp)) (Waiting.store_effect ok) rfl rfl
      (by simp [Event.changes])
  | rejected => exact .same rfl rfl (by simp [Event.changes])

theorem record_atoms (writes : List VlobWrite) (tables : StatsTables) :
    (writes.map StatsChange.atom).foldl StatsTables.record tables =
      { tables with vlobAtom := tables.vlobAtom ++ writes.map atomSizeRow } := by
  induction writes generalizing tables with
  | nil => simp
  | cons write rest ih =>
    rw [List.map_cons, List.foldl_cons, ih]
    simp [StatsTables.record, atomSizeRow]

theorem OrgChange.otherRows {org org' : MemoryOrganization} {change : StatsChange}
    (changed : OrgChange org org' change) (tables : StatsTables) :
    (tables.record change).vlobAtom = tables.vlobAtom ∧
      (tables.record change).block = tables.block := by
  cases changed with
  | user => exact ⟨rfl, rfl⟩
  | profile => exact ⟨rfl, rfl⟩
  | revocation => exact ⟨rfl, rfl⟩
  | realm => exact ⟨rfl, rfl⟩
  | role => exact ⟨rfl, rfl⟩
  | other => exact ⟨rfl, rfl⟩

theorem Mirrored.memory {event : Event} {memory : State} (mirrored : Mirrored at_ s)
    (comparable : Comparable at_ s (.memory event)) (step : Step s.memory event memory) :
    Mirrored at_ { s with
      memory := memory
      tables := (event.changes s.memory memory).foldl StatsTables.record s.tables } := by
  have vlobs := (mirrored.vlobs.step comparable.1 step).1
  have atoms := mirrored.atoms
  cases eventChange mirrored.vlobs.kept.valid step with
  | operation op isEvent ok succeeded =>
    subst isEvent
    obtain ⟨topic, -, effect⟩ := Operation.effect ok
    have common := (effect.common_grows true).1
    have changed := Operation.orgChange ok
    have comparableChange := comparable.2 op rfl
    have users := mirrored.users.change common changed comparableChange
    have realms := mirrored.realms.change mirrored.keys changed comparableChange
    obtain ⟨sameAtoms, sameBlocks⟩ := changed.otherRows s.tables
    refine ⟨vlobs, mirrored.keys.operation effect, users, realms, ?_, ?_⟩
    · change (s.tables.record op.change).vlobAtom = memory.succeeded.map atomSizeRow
      rw [sameAtoms, succeeded]
      exact atoms
    · exact sameBlocks.trans mirrored.blocks
  | store call valid effect succeeded operations changes =>
    have common := (effect.common_grows true).1
    have users := mirrored.users.change common effect.orgChange trivial
    have realms := mirrored.realms.change mirrored.keys effect.orgChange trivial
    rw [changes, record_atoms]
    refine ⟨vlobs, mirrored.keys.store valid effect, ?_, ?_, ?_, mirrored.blocks⟩
    · exact users.same (le_refl _) rfl rfl rfl
    · exact realms.same rfl rfl rfl
    · change s.tables.vlobAtom ++ call.written.map atomSizeRow = memory.succeeded.map atomSizeRow
      rw [succeeded, List.map_append, atoms]
  | same org succeeded changes =>
    rw [changes]
    refine ⟨vlobs, ?_, ?_, ?_, ?_, mirrored.blocks⟩
    · change KeysKept memory.org
      rw [org]
      exact mirrored.keys
    · change UsersMirrored at_ memory.org s.tables
      rw [org]
      exact mirrored.users
    · change RealmsMirrored at_ memory.org s.tables
      rw [org]
      exact mirrored.realms
    · change s.tables.vlobAtom = memory.succeeded.map atomSizeRow
      rw [succeeded]
      exact atoms

theorem Mirrored.block {call : BlockCreate} (mirrored : Mirrored at_ s)
    (comparable : Comparable at_ s (.block call)) :
    Mirrored at_ { s with
      blocks := s.blocks.set call.blockId call.registered
      tables := s.tables.record (.block call) } := by
  refine ⟨mirrored.vlobs, mirrored.keys, ?_, ?_, mirrored.atoms, ?_⟩
  · exact mirrored.users.same (le_refl _) rfl rfl rfl
  · exact mirrored.realms.same rfl rfl rfl
  · change s.tables.block ++ _ = ((s.blocks.set call.blockId call.registered).values).map blockRow
    rw [Dict.values_set_of_absent comparable, List.map_append, mirrored.blocks]
    rfl

theorem Mirrored.step {event : StatsEvent} (mirrored : Mirrored at_ s)
    (comparable : Comparable at_ s event) (step : StatsStep s event s') : Mirrored at_ s' := by
  cases step with
  | memory step => exact mirrored.memory comparable step
  | block call => exact mirrored.block comparable

theorem Mirrored.run (mirrored : Mirrored at_ s) (run : Run StatsStep (Comparable at_) s s') :
    Mirrored at_ s' := by
  apply run.keeps mirrored
  intro s event s' mirrored comparable step
  exact mirrored.step comparable step

end Agreement

section Past
variable {at_ : DateTime} {tables : StatsTables} {s s' : StatsState}

/-- What is recorded is after the date, and is about what was not there by then. -/
def Unseen (at_ : DateTime) (tables : StatsTables) : StatsChange → Prop
  | .user certif => at_ < certif.timestamp
  | .profile certif => ∀ row ∈ tables.user, row.userId = certif.userId → at_ < row.createdOn
  | .revocation certif => ∀ row ∈ tables.user, row.userId = certif.userId → at_ < row.createdOn
  | .realm _ certif => at_ < certif.timestamp ∧
    (∀ row ∈ tables.realmUserRole, row.realm ≠ certif.realmId) ∧
    ∀ row ∈ tables.vlobAtom, row.realm ≠ certif.realmId
  | .role certif => at_ < certif.timestamp
  | .atom write => at_ < write.timestamp
  | .block call => at_ < call.now
  | .other => True

/-- The tables give the same at the date. -/
structure SameAt (at_ : DateTime) (tables tables' : StatsTables) : Prop where
  users : tables'.organizationUsers at_ = tables.organizationUsers at_
  realms : tables'.organizationRealms at_ = tables.organizationRealms at_
  metadata : tables'.organizationMetadataSize at_ = tables.organizationMetadataSize at_
  data : tables'.organizationDataSize at_ = tables.organizationDataSize at_

theorem SameAt.stats {tables' : StatsTables} (same : SameAt at_ tables tables')
    (createdOn : DateTime) : tables'.stats at_ createdOn = tables.stats at_ createdOn := by
  simp only [StatsTables.stats, StatsTables.userCounts, same.users, same.realms, same.metadata,
    same.data]

theorem users_unseen {row : UserRow} (later : at_ < row.createdOn) :
    StatsTables.organizationUsers { tables with user := tables.user ++ [row] } at_ =
      tables.organizationUsers at_ := by
  have absent : ¬ row.createdOn ≤ at_ := not_le.mpr later
  rw [StatsTables.organizationUsers, List.filter_append, List.filter_singleton]
  simp [absent, StatsTables.organizationUsers, StatsTables.profileOf]

theorem profile_unseen {row : ProfileRow}
    (later : ∀ user ∈ tables.user, user.userId = row.user → at_ < user.createdOn) :
    StatsTables.organizationUsers { tables with profile := tables.profile ++ [row] } at_ =
      tables.organizationUsers at_ := by
  rw [StatsTables.organizationUsers, StatsTables.organizationUsers]
  apply List.map_congr_left
  intro user member
  obtain ⟨isUser, there⟩ := List.mem_filter.mp member
  have differs : row.user ≠ user.userId := by
    intro same
    exact absurd (of_decide_eq_true there) (not_le.mpr (later user isUser same.symm))
  have updates : ((tables.profile ++ [row]).filter fun update => update.user = user.userId) =
      tables.profile.filter fun update => update.user = user.userId := by
    rw [List.filter_append, List.filter_singleton]
    simp [differs]
  simp only [StatsTables.profileOf, updates]

theorem revocation_unseen {certif : RevokedUserCertificate}
    (later : ∀ user ∈ tables.user, user.userId = certif.userId → at_ < user.createdOn) :
    StatsTables.organizationUsers
      { tables with user := tables.user.map (StatsTables.revokeRow certif) } at_ =
      tables.organizationUsers at_ := by
  have created : ∀ row, (StatsTables.revokeRow certif row).createdOn = row.createdOn := by
    intro row
    by_cases same : row.userId = certif.userId
    · simp [StatsTables.revokeRow, same]
    · simp [StatsTables.revokeRow, same]
  rw [StatsTables.organizationUsers, StatsTables.organizationUsers, List.filter_map, List.map_map]
  simp only [Function.comp_def, created]
  apply List.map_congr_left
  intro user member
  obtain ⟨isUser, there⟩ := List.mem_filter.mp member
  have differs : user.userId ≠ certif.userId := by
    intro same
    exact absurd (of_decide_eq_true there) (not_le.mpr (later user isUser same))
  rw [StatsTables.revokeRow, if_neg differs]
  rfl

/-- The join of a realm at the date. -/
def joinedAt (at_ : DateTime) (roles : List RealmUserRoleRow) (realm : VlobID) :
    List (VlobID × RealmUserRoleRow) :=
  ((roles.filter fun role => role.realm = realm).map fun role => (realm, role)).filter
    fun row => row.2.certifiedOn ≤ at_

theorem organizationRealms_joinedAt : tables.organizationRealms at_ =
    ((tables.realm.flatMap (joinedAt at_ tables.realmUserRole)).map Prod.fst).dedup.length := by
  rw [StatsTables.organizationRealms, List.filter_flatMap]
  rfl

theorem joinedAt_unseen (roles : List RealmUserRoleRow) {role : RealmUserRoleRow}
    (later : at_ < role.certifiedOn) : joinedAt at_ (roles ++ [role]) = joinedAt at_ roles := by
  have absent : ¬ role.certifiedOn ≤ at_ := not_le.mpr later
  funext realm
  rw [joinedAt, List.filter_append, List.map_append, List.filter_append, joinedAt]
  by_cases same : role.realm = realm
  · simp [same, absent]
  · simp [same]

theorem role_unseen {role : RealmUserRoleRow} (later : at_ < role.certifiedOn) :
    StatsTables.organizationRealms
      { tables with realmUserRole := tables.realmUserRole ++ [role] } at_ =
      tables.organizationRealms at_ := by
  rw [organizationRealms_joinedAt, organizationRealms_joinedAt]
  simp only [joinedAt_unseen tables.realmUserRole later]

theorem realm_unseen {realm : VlobID} {role : RealmUserRoleRow}
    (noRole : ∀ row ∈ tables.realmUserRole, row.realm ≠ realm) (later : at_ < role.certifiedOn) :
    StatsTables.organizationRealms { tables with
      realm := tables.realm ++ [realm]
      realmUserRole := tables.realmUserRole ++ [role] } at_ = tables.organizationRealms at_ := by
  have nothing : joinedAt at_ tables.realmUserRole realm = [] := by
    have noRow : (tables.realmUserRole.filter fun role => role.realm = realm) = [] := by
      rw [List.filter_eq_nil_iff]
      intro row isRow isHere
      exact noRole row isRow (of_decide_eq_true isHere)
    rw [joinedAt, noRow]
    rfl
  rw [organizationRealms_joinedAt, organizationRealms_joinedAt]
  simp only [joinedAt_unseen tables.realmUserRole later, List.flatMap_append,
    List.flatMap_singleton, nothing, List.append_nil]

theorem metadata_of_realm {realm : VlobID} (noAtom : ∀ row ∈ tables.vlobAtom, row.realm ≠ realm)
    (roles : List RealmUserRoleRow) :
    StatsTables.organizationMetadataSize { tables with
      realm := tables.realm ++ [realm]
      realmUserRole := roles } at_ = tables.organizationMetadataSize at_ := by
  rw [StatsTables.organizationMetadataSize, StatsTables.organizationMetadataSize]
  congr 2
  apply List.filter_congr
  intro row isRow
  simp [noAtom row isRow]

theorem atom_unseen {row : VlobAtomSizeRow} (later : at_ < row.createdOn) :
    StatsTables.organizationMetadataSize { tables with vlobAtom := tables.vlobAtom ++ [row] } at_ =
      tables.organizationMetadataSize at_ := by
  have absent : ¬ row.createdOn ≤ at_ := not_le.mpr later
  rw [StatsTables.organizationMetadataSize, StatsTables.organizationMetadataSize,
    List.filter_append, List.filter_singleton]
  simp [StatsTables.isThere, absent]

theorem block_unseen {row : BlockSizeRow} (later : at_ < row.createdOn) :
    StatsTables.organizationDataSize { tables with block := tables.block ++ [row] } at_ =
      tables.organizationDataSize at_ := by
  have absent : ¬ row.createdOn ≤ at_ := not_le.mpr later
  rw [StatsTables.organizationDataSize, StatsTables.organizationDataSize,
    List.filter_append, List.filter_singleton]
  simp [StatsTables.isThere, absent]

theorem SameAt.record {change : StatsChange} (unseen : Unseen at_ tables change) :
    SameAt at_ tables (tables.record change) := by
  cases change with
  | user certif => exact ⟨users_unseen unseen, rfl, rfl, rfl⟩
  | profile certif => exact ⟨profile_unseen unseen, rfl, rfl, rfl⟩
  | revocation certif => exact ⟨revocation_unseen unseen, rfl, rfl, rfl⟩
  | realm now certif =>
    obtain ⟨later, noRole, noAtom⟩ := unseen
    exact ⟨rfl, realm_unseen noRole later, metadata_of_realm noAtom _, rfl⟩
  | role certif => exact ⟨rfl, role_unseen unseen, rfl, rfl⟩
  | atom write => exact ⟨rfl, rfl, atom_unseen unseen, rfl⟩
  | block call => exact ⟨rfl, rfl, rfl, block_unseen unseen⟩
  | other => exact ⟨rfl, rfl, rfl, rfl⟩

theorem SameAt.trans {tables' tables'' : StatsTables} (first : SameAt at_ tables tables')
    (second : SameAt at_ tables' tables'') : SameAt at_ tables tables'' where
  users := second.users.trans first.users
  realms := second.realms.trans first.realms
  metadata := second.metadata.trans first.metadata
  data := second.data.trans first.data

theorem SameAt.writes {writes : List VlobWrite} (later : ∀ write ∈ writes, at_ < write.timestamp)
    (tables : StatsTables) :
    SameAt at_ tables ((writes.map StatsChange.atom).foldl StatsTables.record tables) := by
  induction writes generalizing tables with
  | nil => exact ⟨rfl, rfl, rfl, rfl⟩
  | cons write rest ih =>
    have unseen : Unseen at_ tables (.atom write) := later write List.mem_cons_self
    have restLater := ih fun other isRest => later other (List.mem_cons_of_mem write isRest)
    exact (SameAt.record unseen).trans (restLater _)

/-- The operations are dated strictly after the date. -/
def StatsEvent.After (at_ : DateTime) (event : StatsEvent) : Prop :=
  ∀ change ∈ event.operations, ∀ date, change.date = some date → at_ < date

/-- No user that was there at the date gets a new profile. -/
def KeepsProfiles (at_ : DateTime) (s : StatsState) (event : StatsEvent) : Prop :=
  ∀ certif, .profile certif ∈ event.operations →
    ∀ user, s.memory.org.users.get? certif.userId = some user → at_ < user.cooked.timestamp

theorem UsersMirrored.row {org : MemoryOrganization} (mirrored : UsersMirrored at_ org tables)
    {row : UserRow} (isRow : row ∈ tables.user) :
    ∃ user, org.users.get? row.userId = some user ∧ row.createdOn = user.cooked.timestamp := by
  rw [mirrored.rows] at isRow
  obtain ⟨item, isItem, rfl⟩ := List.mem_map.mp isRow
  exact ⟨item.2, Dict.get?_eq_some_iff.mpr isItem, rfl⟩

/-- An operation after the date on what the tables have is not seen at the date. -/
theorem Mirrored.unseen {org' : MemoryOrganization} {change : StatsChange}
    (mirrored : Mirrored at_ s) (changed : OrgChange s.memory.org org' change)
    (comparable : ComparableChange at_ s.memory.org change)
    (later : ∀ date, change.date = some date → at_ < date)
    (profiles : ∀ certif, change = .profile certif → ∀ user,
      s.memory.org.users.get? certif.userId = some user → at_ < user.cooked.timestamp) :
    Unseen at_ s.tables change := by
  cases changed with
  | user isNew users realms => exact later _ rfl
  | @profile certif target raw isTarget causal last users realms =>
    intro row isRow sameUser
    obtain ⟨user, isUser, created⟩ := mirrored.users.row isRow
    rw [created]
    rw [sameUser] at isUser
    exact profiles certif rfl user isUser
  | @revocation certif target raw isTarget users realms =>
    intro row isRow sameUser
    obtain ⟨user, isUser, created⟩ := mirrored.users.row isRow
    rw [created]
    rw [sameUser] at isUser
    by_contra there
    have byThen := comparable user isUser (not_lt.mp there)
    exact absurd (later certif.timestamp rfl) (not_lt.mpr byThen)
  | @realm now certif raw isNew users realms =>
    have absent : certif.realmId ∉ s.memory.org.realms.keys := Dict.get?_eq_none_iff.mp isNew
    refine ⟨later certif.timestamp rfl, ?_, ?_⟩
    · intro row isRow sameRealm
      apply absent
      rw [← sameRealm, ← mirrored.realms.rows]
      exact mirrored.realms.known row isRow
    · intro row isRow sameRealm
      rw [mirrored.atoms] at isRow
      obtain ⟨write, isWrite, rfl⟩ := List.mem_map.mp isRow
      obtain ⟨realm, isRealm⟩ := mirrored.vlobs.kept.writes.known write isWrite
      change write.realmId = certif.realmId at sameRealm
      rw [sameRealm, isNew] at isRealm
      cases isRealm
  | role isRealm causal users realms => exact later _ rfl
  | other users keys realms => trivial

theorem Mirrored.sameAt {event : StatsEvent} (mirrored : Mirrored at_ s)
    (comparable : Comparable at_ s event) (after : event.After at_)
    (profiles : KeepsProfiles at_ s event) (step : StatsStep s event s') :
    SameAt at_ s.tables s'.tables := by
  cases step with
  | block call =>
    have unseen : Unseen at_ s.tables (.block call) :=
      after (.block call) (List.mem_singleton_self _) call.now rfl
    exact SameAt.record unseen
  | @memory event memory step =>
    cases eventChange mirrored.vlobs.kept.valid step with
    | operation op isEvent ok succeeded =>
      subst isEvent
      have isOperation : op.change ∈ StatsEvent.operations (.memory (.operation op)) :=
        List.mem_singleton_self _
      apply SameAt.record
      apply mirrored.unseen (Operation.orgChange ok) (comparable.2 op rfl) (after _ isOperation)
      intro certif isProfile
      exact profiles certif (isProfile ▸ isOperation)
    | store call valid effect succeeded operations changes =>
      change SameAt at_ s.tables ((event.changes s.memory memory).foldl StatsTables.record s.tables)
      rw [changes]
      apply SameAt.writes
      intro write isWrite
      have isOperation : .atom write ∈ StatsEvent.operations (.memory event) :=
        operations ▸ List.mem_map_of_mem isWrite
      exact after (.atom write) isOperation write.timestamp rfl
    | same org succeeded changes =>
      change SameAt at_ s.tables ((event.changes s.memory memory).foldl StatsTables.record s.tables)
      rw [changes]
      exact ⟨rfl, rfl, rfl, rfl⟩

end Past

/-- The users have never been changed, and there is nothing else. -/
structure FreshStats (s : StatsState) : Prop where
  noVlob : NoVlob s.memory
  noRealm : s.memory.org.realms = .empty
  noBlock : s.blocks = .empty
  users : ∀ userId user, s.memory.org.users.get? userId = some user →
    user.profileUpdates = [] ∧ user.revoked = none
  tables : s.tables =
    ⟨s.memory.org.users.items.map fun item => userRow item.1 item.2, [], [], [], [], []⟩

theorem FreshStats.mirrored {s : StatsState} (fresh : FreshStats s) (at_ : DateTime) :
    Mirrored at_ s := by
  obtain ⟨noVlob, noRealm, noBlock, users, tables⟩ := fresh
  have absent : ∀ realmId, s.memory.org.realms.get? realmId = none := by
    intro realmId
    rw [noRealm]
    rfl
  refine ⟨noVlob.ordered, ?_, ?_, ?_, ?_, ?_⟩
  · intro realmId realm isRealm
    rw [absent] at isRealm
    cases isRealm
  · rw [tables]
    refine ⟨rfl, by simp, ?_⟩
    intro userId user isUser
    obtain ⟨noUpdate, active⟩ := users userId user isUser
    constructor
    · rw [noUpdate]
      rfl
    · rw [noUpdate]
      exact List.Pairwise.nil
    · simp [noUpdate]
    · simp [active]
  · rw [tables]
    refine ⟨by rw [noRealm]; rfl, by simp, ?_⟩
    intro realmId realm isRealm
    rw [absent] at isRealm
    cases isRealm
  · rw [tables, noVlob.noWrite]
    rfl
  · rw [tables, noBlock]
    rfl

/-- The operations after the date that are not seen at the date. -/
def Settled (at_ : DateTime) (s : StatsState) (event : StatsEvent) : Prop :=
  Comparable at_ s event ∧ event.After at_ ∧ KeepsProfiles at_ s event

theorem StatsStep.createdOn {s s' : StatsState} {event : StatsEvent}
    (step : StatsStep s event s') : s'.createdOn = s.createdOn := by
  cases step with
  | memory => rfl
  | block => rfl

theorem Mirrored.settled {at_ : DateTime} {s s' : StatsState} (mirrored : Mirrored at_ s)
    (run : Run StatsStep (Settled at_) s s') :
    Mirrored at_ s' ∧ s'.createdOn = s.createdOn ∧ SameAt at_ s.tables s'.tables := by
  induction run with
  | start => exact ⟨mirrored, rfl, rfl, rfl, rfl, rfl⟩
  | step earlier settled taken ih =>
    obtain ⟨mirrored', createdOn, same⟩ := ih
    obtain ⟨comparable, after, profiles⟩ := settled
    have sameDate := StatsStep.createdOn taken
    exact ⟨mirrored'.step comparable taken, sameDate.trans createdOn,
      same.trans (mirrored'.sameAt comparable after profiles taken)⟩

/-- Both servers give the same statistics at a date, which stay the same when the users that were
    there at the date keep their profiles, and are not revoked afterwards. -/
theorem past_stats_kept (at_ : DateTime) (start s : StatsState) (fresh : FreshStats start)
    (run : Run StatsStep (Comparable at_) start s) :
    s.memoryStats at_ = s.tablesStats at_ ∧
      ∀ s', Run StatsStep (Settled at_) s s' →
        s'.memoryStats at_ = s.memoryStats at_ ∧ s'.tablesStats at_ = s.tablesStats at_ := by
  have mirrored := (fresh.mirrored at_).run run
  refine ⟨mirrored.agree, ?_⟩
  intro s' later
  obtain ⟨mirrored', createdOn, same⟩ := mirrored.settled later
  have tables : s'.tablesStats at_ = s.tablesStats at_ := by
    rw [StatsState.tablesStats, createdOn]
    exact same.stats s.createdOn
  exact ⟨mirrored'.agree.trans (tables.trans mirrored.agree.symm), tables⟩

section Samples

/-- A server on which the team has done nothing. -/
def teamStats : StatsState :=
  ⟨1, ⟨teamOrganization, [], []⟩, .empty,
    ⟨teamOrganization.users.items.map fun item => userRow item.1 item.2, [], [], [], [], []⟩⟩

theorem teamStats_fresh : FreshStats teamStats := by
  refine ⟨⟨rfl, ?_, rfl, rfl⟩, rfl, rfl, ?_, rfl⟩
  · intro realmId realm isRealm
    cases isRealm
  · intro userId user isUser
    change ((Dict.set _ _ _).set _ _).get? userId = some user at isUser
    rcases Dict.found_set rfl isUser with ⟨-, rfl⟩ | ⟨-, isFirst⟩
    · exact ⟨rfl, rfl⟩
    · rcases Dict.found_set rfl isFirst with ⟨-, rfl⟩ | ⟨-, isNone⟩
      · exact ⟨rfl, rfl⟩
      · cases isNone

def bobUpdate : Operation :=
  .updateUser 3 ⟨11⟩ ⟨21⟩ ⟨[], .certificate ⟨⟨11⟩, 3, ⟨2⟩, .outsider⟩ ⟨21⟩⟩

def bobRevocation : Operation :=
  .revokeUser 3 ⟨11⟩ ⟨21⟩ ⟨[], .certificate ⟨⟨11⟩, 3, ⟨2⟩⟩ ⟨21⟩⟩

def lateRealm : Operation :=
  .createRealm 3 ⟨11⟩ ⟨21⟩ ⟨[], .certificate ⟨⟨11⟩, 3, ⟨5⟩, ⟨1⟩, some .owner⟩ ⟨21⟩⟩

/-- An operation of the team that succeeds. -/
def teamStatsAfter (op : Operation) : StatsState :=
  { teamStats with
    memory := ⟨(op.run teamOrganization).toOption.getD teamOrganization, [], []⟩
    tables := teamStats.tables.record op.change }

theorem teamStats_step {op : Operation} {org : MemoryOrganization}
    (ok : op.run teamOrganization = .ok org) :
    StatsStep teamStats (.memory (.operation op)) (teamStatsAfter op) := by
  have step : Step teamStats.memory (.operation op) ⟨org, [], []⟩ := .operation (by simp) ok
  unfold teamStatsAfter
  rw [ok]
  exact .memory step

theorem teamStats_run {op : Operation} {org : MemoryOrganization}
    {admits : StatsState → StatsEvent → Prop} (ok : op.run teamOrganization = .ok org)
    (met : admits teamStats (.memory (.operation op))) :
    Run StatsStep admits teamStats (teamStatsAfter op) :=
  .step .start met (teamStats_step ok)

theorem StatsEvent.after_operation {at_ : DateTime} {op : Operation}
    (later : ∀ date, op.change.date = some date → at_ < date) :
    StatsEvent.After at_ (.memory (.operation op)) := by
  intro change isChange
  rw [List.mem_singleton.mp isChange]
  exact later

theorem past_stats_of_new_realm :
    teamStats.memoryStats 2 = teamStats.tablesStats 2 ∧
      (teamStatsAfter lateRealm).memoryStats 2 = teamStats.memoryStats 2 ∧
      (teamStatsAfter lateRealm).tablesStats 2 = teamStats.tablesStats 2 := by
  have settled : Settled 2 teamStats (.memory (.operation lateRealm)) := by
    refine ⟨⟨trivial, ?_⟩, StatsEvent.after_operation ?_, ?_⟩
    · intro op isOperation
      cases isOperation
      change (3 : DateTime) ≤ 2 ↔ (3 : DateTime) ≤ 2
      rfl
    · intro date isDate
      cases isDate
      decide
    · intro certif isProfile
      cases List.mem_singleton.mp isProfile
  obtain ⟨agree, kept⟩ := past_stats_kept 2 teamStats teamStats teamStats_fresh .start
  exact ⟨agree, kept _ (teamStats_run rfl settled)⟩

theorem bobUpdate_seen : (teamStatsAfter bobUpdate).memoryStats 2 ≠ teamStats.memoryStats 2 ∧
    (teamStatsAfter bobUpdate).tablesStats 2 ≠ teamStats.tablesStats 2 := by
  have mirrored := teamStats_fresh.mirrored 2
  have comparable : Comparable 2 teamStats (.memory (.operation bobUpdate)) := by
    refine ⟨trivial, ?_⟩
    intro op isOperation
    cases isOperation
    trivial
  have after := mirrored.step comparable (teamStats_step rfl)
  have changed : (teamStatsAfter bobUpdate).memoryStats 2 ≠ teamStats.memoryStats 2 := by decide
  refine ⟨changed, ?_⟩
  rw [← after.agree, ← mirrored.agree]
  exact changed

/-- The tables show a user that was there as revoked, whatever the date. -/
theorem bobRevocation_seen :
    (teamStatsAfter bobRevocation).memoryStats 2 = teamStats.memoryStats 2 ∧
      (teamStatsAfter bobRevocation).tablesStats 2 ≠ teamStats.tablesStats 2 := by
  constructor
  · decide
  · intro same
    rw [← (teamStats_fresh.mirrored 2).agree] at same
    have active : ((teamStatsAfter bobRevocation).tables.userCounts 2).activeUsers =
        (teamStats.memory.org.userCounts 2).activeUsers :=
      congrArg OrganizationStats.activeUsers (Except.ok.inj same)
    change (1 : Nat) = 2 at active
    cases active

/-- A new profile of a user that was there changes both statistics, and its revocation those of the
    tables, which then differ from those of the memory. -/
theorem past_stats_change :
    FreshStats teamStats ∧
      (∃ s, Run StatsStep (fun _ event => event.After 2) teamStats s ∧
        s.memoryStats 2 ≠ teamStats.memoryStats 2 ∧ s.tablesStats 2 ≠ teamStats.tablesStats 2) ∧
      ∃ s, Run StatsStep (fun _ event => event.After 2) teamStats s ∧
        s.tablesStats 2 ≠ teamStats.tablesStats 2 ∧ s.memoryStats 2 ≠ s.tablesStats 2 := by
  have late : ∀ date : DateTime, some 3 = some date → 2 < date := by
    intro date isDate
    cases isDate
    decide
  have updated : StatsEvent.After 2 (.memory (.operation bobUpdate)) :=
    StatsEvent.after_operation late
  have revoked : StatsEvent.After 2 (.memory (.operation bobRevocation)) :=
    StatsEvent.after_operation late
  have differs : (teamStatsAfter bobRevocation).memoryStats 2 ≠
      (teamStatsAfter bobRevocation).tablesStats 2 := by
    rw [bobRevocation_seen.1, (teamStats_fresh.mirrored 2).agree]
    exact bobRevocation_seen.2.symm
  exact ⟨teamStats_fresh, ⟨_, teamStats_run rfl updated, bobUpdate_seen⟩,
    _, teamStats_run rfl revoked, bobRevocation_seen.2, differs⟩

end Samples

end ParsecCloud.Server

import ParsecCloud.Server.KeyAccess
import ParsecCloud.Server.GetCertificates

/- The certificates of a topic, as they are read, form a log that goes on with later certificates at
   each operation. -/
namespace ParsecCloud.Server
open Certif Rust Runs MemoryOrganization DatedLog

abbrev Continues := Extends CertificateEntry.timestamp

theorem CertificateEntry.key_lt {a b : CertificateEntry} (earlier : a.timestamp < b.timestamp) :
    a.key < b.key :=
  Prod.Lex.toLex_lt_toLex.mpr (Or.inl earlier)

theorem CertificateEntry.key_lt_of_priority {a b : CertificateEntry}
    (notLater : a.timestamp ≤ b.timestamp) (first : a.priority < b.priority) : a.key < b.key := by
  rcases notLater.lt_or_eq with earlier | same
  · exact key_lt earlier
  · exact Prod.Lex.toLex_lt_toLex.mpr
      (Or.inr ⟨same, Prod.Lex.toLex_lt_toLex.mpr (Or.inl first)⟩)

theorem CertificateEntry.timestamp_le {a b : CertificateEntry} (ordered : a.key ≤ b.key) :
    a.timestamp ≤ b.timestamp := by
  by_contra later
  exact absurd ordered (not_le.mpr (key_lt (not_le.mp later)))

/-- The entries of a topic whose last certificate has this date. -/
structure Logged (last : DateTime) (entries : List CertificateEntry) : Prop where
  dated : ∀ entry ∈ entries, entry.timestamp ≤ last
  distinct : entries.Pairwise fun a b => a.key ≠ b.key

/-- Entries of later dates join the others. -/
def Grows (last last' : DateTime) (entries entries' : List CertificateEntry) : Prop :=
  last ≤ last' ∧ ∃ added, entries'.Perm (entries ++ added) ∧
    (added.Pairwise fun a b => a.key < b.key) ∧
    ∀ entry ∈ added, last < entry.timestamp ∧ entry.timestamp ≤ last'

section Growth
variable {last last' : DateTime} {entries entries' : List CertificateEntry}

theorem Grows.refl (later : last ≤ last') : Grows last last' entries entries :=
  ⟨later, [], by simp, List.Pairwise.nil, by simp⟩

theorem Grows.one {entry : CertificateEntry} (perm : entries'.Perm (entries ++ [entry]))
    (later : last < entry.timestamp) (isLast : entry.timestamp = last') :
    Grows last last' entries entries' := by
  refine ⟨isLast ▸ later.le, [entry], perm, List.pairwise_singleton _ _, ?_⟩
  intro other member
  rw [List.mem_singleton.mp member]
  exact ⟨later, isLast.le⟩

theorem Logged.grows (logged : Logged last entries) (grows : Grows last last' entries entries') :
    Logged last' entries' ∧ Continues (sortBy (·.key) entries) (sortBy (·.key) entries') := by
  obtain ⟨later, added, perm, ordered, addedDated⟩ := grows
  have before : ∀ x ∈ entries, ∀ y ∈ added, x.timestamp < y.timestamp :=
    fun x isOld y isNew => lt_of_le_of_lt (logged.dated x isOld) (addedDated y isNew).1
  refine ⟨⟨?_, ?_⟩, added, ?_, ?_⟩
  · intro entry member
    rcases List.mem_append.mp (perm.mem_iff.mp member) with isOld | isNew
    · exact (logged.dated entry isOld).trans later
    · exact (addedDated entry isNew).2
  · refine List.Pairwise.perm ?_ perm.symm fun apart => apart.symm
    rw [List.pairwise_append]
    refine ⟨logged.distinct, ordered.imp fun less => less.ne, ?_⟩
    intro x isOld y isNew
    exact (CertificateEntry.key_lt (before x isOld y isNew)).ne
  · exact sortBy_append perm logged.distinct ordered fun x isOld y isNew =>
      CertificateEntry.key_lt (before x isOld y isNew)
  · intro x isOld y isNew
    exact before x (mem_sortBy.mp isOld) y isNew

theorem Logged.chronological (logged : Logged last entries) :
    Chronological CertificateEntry.timestamp (sortBy (·.key) entries) :=
  (sortBy_strict logged.distinct).imp fun less => CertificateEntry.timestamp_le less.le

end Growth

section Lists
variable {α : Type} {f : α → List CertificateEntry} {added : List CertificateEntry}

theorem flatMap_perm_of_split {front back : List α} {old new : α}
    (more : (f new).Perm (f old ++ added)) :
    ((front ++ new :: back).flatMap f).Perm ((front ++ old :: back).flatMap f ++ added) := by
  rw [List.flatMap_append, List.flatMap_append, List.flatMap_cons, List.flatMap_cons,
    List.append_assoc]
  apply List.Perm.append_left
  rw [List.append_assoc]
  refine (more.append_right _).trans ?_
  rw [List.append_assoc]
  exact List.Perm.append_left _ List.perm_append_comm

theorem flatMap_values_set {κ : Type} [DecidableEq κ] {d : Dict κ α} {k : κ} {old new : α}
    (found : d.get? k = some old) (more : (f new).Perm (f old ++ added)) :
    ((d.set k new).values.flatMap f).Perm (d.values.flatMap f ++ added) := by
  obtain ⟨front, back, values, values'⟩ := Dict.values_set_of_found (v := new) found
  rw [values, values']
  exact flatMap_perm_of_split more

theorem flatMap_set {l : List α} {i : Nat} {old new : α} (found : l[i]? = some old)
    (more : (f new).Perm (f old ++ added)) :
    ((l.set i new).flatMap f).Perm (l.flatMap f ++ added) := by
  obtain ⟨inside, isOld⟩ := List.getElem?_eq_some_iff.mp found
  have split : l = l.take i ++ old :: l.drop (i + 1) := by
    rw [← isOld, List.cons_getElem_drop_succ, List.take_append_drop]
  have split' : l.set i new = l.take i ++ new :: l.drop (i + 1) :=
    List.set_eq_take_append_cons_drop.trans (if_pos inside)
  rw [split']
  nth_rewrite 3 [split]
  exact flatMap_perm_of_split more

end Lists

section Common
variable {org org' : MemoryOrganization}

theorem userEntries_revoked {redacted : Bool} {user : MemoryUser} {certif : RevokedUserCertificate}
    {raw : List Byte} (active : user.revoked = none) :
    (userEntries redacted { user with revoked := some (certif, raw) }).Perm
      (userEntries redacted user ++ [⟨certif.timestamp, 1, raw, .common (.revokedUser certif)⟩]) := by
  simp only [userEntries, active, Option.toList_some, Option.toList_none, List.map_cons,
    List.map_nil, List.nil_append, List.cons_append]
  apply List.Perm.cons
  rw [← List.singleton_append]
  exact List.perm_append_comm

theorem userEntries_updated {redacted : Bool} {user : MemoryUser} {certif : UserUpdateCertificate}
    {raw : List Byte} :
    userEntries redacted
        { user with profileUpdates := user.profileUpdates ++ [(certif, raw)] } =
      userEntries redacted user ++ [⟨certif.timestamp, 1, raw, .common (.userUpdate certif)⟩] := by
  simp [userEntries]

theorem common_grows_of_same {topic : TopicAndDiscriminant} {timestamp : DateTime} {redacted : Bool}
    (users : org'.users = org.users) (devices : org'.devices = org.devices)
    (updated : org'.perTopicLastTimestamp =
      Function.update org.perTopicLastTimestamp topic (some timestamp))
    (other : topic ≠ .common) :
    Grows (org.lastTimestamp .common) (org'.lastTimestamp .common) (org.commonEntries redacted)
      (org'.commonEntries redacted) := by
  rw [commonEntries, commonEntries, users, devices, lastTimestamp_update updated,
    if_neg other.symm]
  exact Grows.refl (le_refl _)

theorem Effect.common_grows {kind : OperationKind} {topic : TopicAndDiscriminant}
    (effect : Effect org kind topic org') (redacted : Bool) :
    Grows (org.lastTimestamp .common) (org'.lastTimestamp .common) (org.commonEntries redacted)
      (org'.commonEntries redacted) := by
  have isLast : ∀ {org₁ : MemoryOrganization} {timestamp}, org₁.perTopicLastTimestamp =
      Function.update org.perTopicLastTimestamp .common (some timestamp) →
      org₁.lastTimestamp .common = timestamp := by
    intro org₁ timestamp updated
    rw [lastTimestamp_update updated, if_pos rfl]
  -- one entry more for a user
  have oneUser : ∀ {users : Dict UserID MemoryUser} {entry : CertificateEntry},
      (users.values.flatMap (userEntries redacted)).Perm
        (org.users.values.flatMap (userEntries redacted) ++ [entry]) →
      (users.values.flatMap (userEntries redacted) ++
        org.devices.values.map (deviceEntry redacted)).Perm
        (org.commonEntries redacted ++ [entry]) := by
    intro users entry perm
    refine (perm.append_right _).trans ?_
    rw [commonEntries, List.append_assoc, List.append_assoc]
    exact List.Perm.append_left _ List.perm_append_comm
  cases effect with
  | @user u d authorId authorUser author raw redactedRaw deviceRaw deviceRedacted hasAuthor admin
      userAuthor deviceAuthor sameUser sameTime newUser newDevice later =>
    rw [@isLast (org.withUser u d raw redactedRaw deviceRaw deviceRedacted) _ rfl]
    refine ⟨later.le, [⟨u.certif.timestamp, 0, if redacted then redactedRaw else raw,
      .common (.user u.certif)⟩, deviceEntry redacted ⟨d, deviceRaw, deviceRedacted⟩], ?_, ?_, ?_⟩
    · rw [commonEntries, commonEntries]
      change List.Perm ((org.users.set _ _).values.flatMap _ ++ (org.devices.set _ _).values.map _) _
      rw [Dict.values_set_of_absent newUser, Dict.values_set_of_absent newDevice,
        List.flatMap_append, List.map_append, List.append_assoc, List.append_assoc]
      apply List.Perm.append_left
      rw [← List.append_assoc]
      refine (List.perm_append_comm.append_right _).trans ?_
      rw [List.append_assoc]
      apply List.Perm.append_left
      exact List.Perm.refl _
    · rw [List.pairwise_pair]
      exact CertificateEntry.key_lt_of_priority sameTime.symm.le Nat.zero_lt_one
    · intro entry member
      rcases List.mem_cons.mp member with rfl | member
      · exact ⟨later, le_refl _⟩
      · rw [List.mem_singleton.mp member]
        exact ⟨lt_of_lt_of_eq later sameTime.symm, sameTime.le⟩
  | @device d author authorUser raw redactedRaw hasAuthor deviceAuthor newDevice later =>
    refine @Grows.one _ _ _ _ (deviceEntry redacted ⟨d, raw, redactedRaw⟩) ?_ later
      (isLast rfl).symm
    rw [commonEntries, commonEntries, List.append_assoc]
    change List.Perm (_ ++ (org.devices.set _ _).values.map _) _
    rw [Dict.values_set_of_absent newDevice, List.map_append]
    exact List.Perm.refl _
  | @revocation certif target authorUser authorId raw hasAuthor admin other isTarget active later =>
    refine Grows.one (oneUser (flatMap_values_set isTarget (userEntries_revoked active))) ?_
      (isLast rfl).symm
    exact lt_of_le_of_lt (common_le_forRevocation) later
  | @update certif target authorUser authorId raw hasAuthor admin other isTarget active changes
      later =>
    refine Grows.one (oneUser (flatMap_values_set isTarget
      (List.Perm.of_eq userEntries_updated))) later (isLast rfl).symm
  | newRealm => exact common_grows_of_same rfl rfl rfl (by simp)
  | share => exact common_grows_of_same rfl rfl rfl (by simp)
  | unshare => exact common_grows_of_same rfl rfl rfl (by simp)
  | rename => exact common_grows_of_same rfl rfl rfl (by simp)
  | setup => exact common_grows_of_same rfl rfl rfl (by simp)
  | deletion => exact common_grows_of_same rfl rfl rfl (by simp)
  | service => exact common_grows_of_same rfl rfl rfl (by simp)
  | revokedService => exact common_grows_of_same rfl rfl rfl (by simp)

theorem StoreEffect.common_grows {call : Waiting} (effect : StoreEffect org call org')
    (redacted : Bool) :
    Grows (org.lastTimestamp .common) (org'.lastTimestamp .common) (org.commonEntries redacted)
      (org'.commonEntries redacted) := by
  cases effect with
  | createVlob => exact Grows.refl (le_refl _)
  | updateVlob => exact Grows.refl (le_refl _)
  | rotateKey => exact common_grows_of_same rfl rfl rfl (by simp)

end Common

section ShamirRecovery
variable {org org' : MemoryOrganization}

theorem shamir_grows_of_same {topic : TopicAndDiscriminant} {timestamp : DateTime} {userId : UserID}
    (recoveries : org'.shamirRecoveries = org.shamirRecoveries)
    (updated : org'.perTopicLastTimestamp =
      Function.update org.perTopicLastTimestamp topic (some timestamp))
    (other : topic ≠ .shamirRecovery) :
    Grows (org.lastTimestamp .shamirRecovery) (org'.lastTimestamp .shamirRecovery)
      (org.shamirEntries userId) (org'.shamirEntries userId) := by
  rw [shamirEntries, shamirEntries, recoveries, lastTimestamp_update updated, if_neg other.symm]
  exact Grows.refl (le_refl _)

theorem shamirEntries_set {userId viewer : UserID} {recoveries : List MemoryShamirRecovery}
    {added : List CertificateEntry}
    (more : (recoveries.flatMap (MemoryShamirRecovery.entries viewer)).Perm
      ((org.recoveriesOf userId).flatMap (MemoryShamirRecovery.entries viewer) ++ added)) :
    ((org.shamirRecoveries.set userId recoveries).values.flatMap fun recoveries =>
      recoveries.flatMap (MemoryShamirRecovery.entries viewer)).Perm
      (org.shamirEntries viewer ++ added) := by
  cases found : org.shamirRecoveries.get? userId with
  | none =>
    rw [recoveriesOf, found] at more
    rw [Dict.values_set_of_absent found, List.flatMap_append, List.flatMap_singleton]
    exact List.Perm.append_left _ more
  | some old =>
    rw [recoveriesOf, found] at more
    exact flatMap_values_set found more

theorem MemoryShamirRecovery.entries_new {viewer : UserID} {recovery : MemoryShamirRecovery}
    (noDeletion : recovery.deletion = none) :
    ((recovery.entries viewer).Pairwise fun a b => a.key < b.key) ∧
      ∀ entry ∈ recovery.entries viewer, entry.timestamp = recovery.cookedBrief.timestamp := by
  rw [MemoryShamirRecovery.entries, noDeletion]
  split
  · simp
  · split
    · simp
    · constructor
      · rw [Option.toList_none, List.map_nil, List.pairwise_pair]
        exact CertificateEntry.key_lt_of_priority (le_refl _) Nat.zero_lt_one
      · simp

theorem MemoryShamirRecovery.entries_deleted {viewer : UserID} {recovery : MemoryShamirRecovery}
    {certif : ShamirRecoveryDeletionCertificate} {raw : List Byte}
    (notDeleted : recovery.deletion = none) :
    ∃ added : List CertificateEntry,
      MemoryShamirRecovery.entries viewer { recovery with deletion := some (certif, raw) } =
        recovery.entries viewer ++ added ∧
      (added = [] ∨ added =
        [⟨certif.timestamp, 0, raw, .shamirRecovery (.deletion certif)⟩]) := by
  unfold MemoryShamirRecovery.entries
  simp only [notDeleted]
  split
  · exact ⟨_, rfl, Or.inr rfl⟩
  · split
    · exact ⟨[], rfl, Or.inl rfl⟩
    · exact ⟨_, rfl, Or.inr rfl⟩

theorem Effect.shamir_grows {kind : OperationKind} {topic : TopicAndDiscriminant}
    (effect : Effect org kind topic org') (viewer : UserID) :
    Grows (org.lastTimestamp .shamirRecovery) (org'.lastTimestamp .shamirRecovery)
      (org.shamirEntries viewer) (org'.shamirEntries viewer) := by
  cases effect with
  | user => exact shamir_grows_of_same rfl rfl (by simp)
  | device => exact shamir_grows_of_same rfl rfl (by simp)
  | revocation => exact shamir_grows_of_same rfl rfl (by simp)
  | update => exact shamir_grows_of_same rfl rfl (by simp)
  | newRealm => exact shamir_grows_of_same rfl rfl (by simp)
  | share => exact shamir_grows_of_same rfl rfl (by simp)
  | unshare => exact shamir_grows_of_same rfl rfl (by simp)
  | rename => exact shamir_grows_of_same rfl rfl (by simp)
  | @setup userId recovery noDeletion deleted sharesDated isUser later =>
    have after := lt_of_le_of_lt (le_max_right _ _) later
    obtain ⟨ordered, dated⟩ := @MemoryShamirRecovery.entries_new viewer recovery noDeletion
    rw [@lastTimestamp_update org (org.withSetup userId recovery) .shamirRecovery _ rfl, if_pos rfl]
    refine ⟨after.le, recovery.entries viewer, shamirEntries_set ?_, ordered, ?_⟩
    · rw [List.flatMap_append, List.flatMap_singleton]
    · intro entry member
      rw [dated entry member]
      exact ⟨after, le_refl _⟩
  | @deletion userId index setup certif raw isSetup notDeleted later =>
    have after := lt_of_le_of_lt (le_max_right _ _) later
    obtain ⟨added, entries, isAdded⟩ :=
      @MemoryShamirRecovery.entries_deleted viewer setup certif raw notDeleted
    rw [@lastTimestamp_update org (org.withDeletion userId index setup certif raw) .shamirRecovery _
      rfl, if_pos rfl]
    refine ⟨after.le, added,
      shamirEntries_set (flatMap_set isSetup (List.Perm.of_eq entries)), ?_, ?_⟩
    · rcases isAdded with rfl | rfl
      · exact List.Pairwise.nil
      · exact List.pairwise_singleton _ _
    · intro entry member
      rcases isAdded with rfl | rfl
      · cases member
      · rw [List.mem_singleton.mp member]
        exact ⟨after, le_refl _⟩
  | service => exact shamir_grows_of_same rfl rfl (by simp)
  | revokedService => exact shamir_grows_of_same rfl rfl (by simp)

theorem StoreEffect.shamir_grows {call : Waiting} (effect : StoreEffect org call org')
    (viewer : UserID) :
    Grows (org.lastTimestamp .shamirRecovery) (org'.lastTimestamp .shamirRecovery)
      (org.shamirEntries viewer) (org'.shamirEntries viewer) := by
  cases effect with
  | createVlob => exact Grows.refl (le_refl _)
  | updateVlob => exact Grows.refl (le_refl _)
  | rotateKey => exact shamir_grows_of_same rfl rfl (by simp)

end ShamirRecovery

section Realms
variable {org org' : MemoryOrganization} {last last' : DateTime} {realm realm' : MemoryRealm}

/-- What a user may read: until it lost its access. -/
def visible (roles : Roles) (userId : UserID) (entry : CertificateEntry) : Bool :=
  match roles.reverse.find? fun role => role.1.userId = userId with
  | none => false
  | some (lastRole, _) =>
    match lastRole.role with
    | none => entry.timestamp ≤ lastRole.timestamp
    | some _ => true

/-- The certificates of a realm have all different dates. -/
structure RealmLogged (last : DateTime) (realm : MemoryRealm) : Prop where
  dated : ∀ entry ∈ realm.entries, entry.timestamp ≤ last
  distinct : realm.entries.Pairwise fun a b => a.timestamp ≠ b.timestamp

/-- A realm gets at most one certificate, of a later date. -/
structure RealmGrows (last last' : DateTime) (realm realm' : MemoryRealm) : Prop where
  later : last ≤ last'
  entries : realm'.entries.Perm realm.entries ∨ ∃ entry, last < entry.timestamp ∧
    entry.timestamp = last' ∧ realm'.entries.Perm (realm.entries ++ [entry])
  roles : realm'.roles = realm.roles ∨ ∃ certif raw, certif.timestamp = last' ∧
    realm'.roles = realm.roles ++ [(certif, raw)]

theorem RealmLogged.logged (logged : RealmLogged last realm) : Logged last realm.entries := by
  refine ⟨logged.dated, logged.distinct.imp ?_⟩
  intro a b apart same
  exact apart (congrArg (fun key => (ofLex key).1) same)

theorem RealmLogged.ordered (logged : RealmLogged last realm) :
    (sortBy (·.key) realm.entries).Pairwise fun a b : CertificateEntry =>
      a.timestamp < b.timestamp := by
  have distinct : (sortBy (·.key) realm.entries).Pairwise fun a b : CertificateEntry =>
      a.timestamp ≠ b.timestamp :=
    logged.distinct.perm (sortBy_perm _).symm fun apart => apart.symm
  exact (logged.logged.chronological.and distinct).imp fun both => lt_of_le_of_ne both.1 both.2

/-- To sort what is visible is to hide what is not in the whole log. -/
theorem RealmLogged.certificates_eq (logged : RealmLogged last realm) (userId : UserID) :
    realm.certificates userId =
      (sortBy (·.key) realm.entries).filter (visible realm.roles userId) := by
  unfold MemoryRealm.certificates
  cases found : realm.roles.reverse.find? fun role => role.1.userId = userId with
  | none =>
    rw [eq_comm, List.filter_eq_nil_iff]
    simp [visible, found]
  | some role =>
    obtain ⟨lastRole, raw⟩ := role
    cases isRole : lastRole.role with
    | none =>
      simp only [isRole]
      rw [sortBy_filter logged.logged.distinct]
      apply List.filter_congr
      simp [visible, found, isRole]
    | some role =>
      simp only [isRole]
      rw [eq_comm, List.filter_eq_self]
      simp [visible, found, isRole]

theorem visible_closed {roles : Roles} {userId : UserID} (a b : CertificateEntry)
    (before : a.timestamp ≤ b.timestamp) (isVisible : visible roles userId b = true) :
    visible roles userId a = true := by
  unfold visible at isVisible ⊢
  split
  · rename_i found
    rw [found] at isVisible
    cases isVisible
  · rename_i lastRole raw found
    rw [found] at isVisible
    dsimp only at isVisible
    split
    · rename_i isRole
      rw [isRole] at isVisible
      exact decide_eq_true (before.trans (of_decide_eq_true isVisible))
    · rfl

/-- A role of a later date hides nothing of before. -/
theorem visible_append {roles : Roles} {userId : UserID} {certif : RealmRoleCertificate}
    {raw : List Byte} {entry : CertificateEntry} (before : entry.timestamp ≤ certif.timestamp)
    (isVisible : visible roles userId entry = true) :
    visible (roles ++ [(certif, raw)]) userId entry = true := by
  unfold visible
  rw [List.reverse_append, List.reverse_singleton, List.singleton_append, List.find?_cons]
  by_cases same : certif.userId = userId
  · simp only [same, decide_true]
    cases certif.role with
    | none => exact decide_eq_true before
    | some role => rfl
  · simp only [same, decide_false]
    exact isVisible

theorem RealmGrows.refl (later : last ≤ last') (entries : realm'.entries = realm.entries)
    (roles : realm'.roles = realm.roles) : RealmGrows last last' realm realm' :=
  ⟨later, Or.inl (List.Perm.of_eq entries), Or.inl roles⟩

theorem RealmLogged.grows (logged : RealmLogged last realm)
    (grows : RealmGrows last last' realm realm') :
    RealmLogged last' realm' ∧
      ∀ userId, Continues (realm.certificates userId) (realm'.certificates userId) := by
  have logged' : RealmLogged last' realm' := by
    rcases grows.entries with same | ⟨entry, later, isLast, perm⟩
    · constructor
      · intro other member
        exact (logged.dated other (same.mem_iff.mp member)).trans grows.later
      · exact logged.distinct.perm same.symm fun apart => apart.symm
    · constructor
      · intro other member
        rcases List.mem_append.mp (perm.mem_iff.mp member) with isOld | isNew
        · exact (logged.dated other isOld).trans grows.later
        · rw [List.mem_singleton.mp isNew, isLast]
      · refine List.Pairwise.perm ?_ perm.symm fun apart => apart.symm
        rw [List.pairwise_append]
        refine ⟨logged.distinct, List.pairwise_singleton _ _, ?_⟩
        intro other isOld new isNew
        rw [List.mem_singleton.mp isNew]
        exact (lt_of_le_of_lt (logged.dated other isOld) later).ne
  refine ⟨logged', ?_⟩
  intro userId
  have entries : Grows last last' realm.entries realm'.entries := by
    rcases grows.entries with same | ⟨entry, later, isLast, perm⟩
    · exact ⟨grows.later, [], by simpa using same, List.Pairwise.nil, by simp⟩
    · exact Grows.one perm later isLast
  rw [logged.certificates_eq, logged'.certificates_eq]
  apply (logged.logged.grows entries).2.filter logged.ordered visible_closed
  intro entry member isVisible
  rcases grows.roles with same | ⟨certif, raw, isLast, roles⟩
  · rw [same]
    exact isVisible
  · rw [roles]
    refine visible_append ?_ isVisible
    rw [isLast]
    exact (logged.dated entry (mem_sortBy.mp member)).trans grows.later

/-- What a step does to the realms. -/
structure RealmsGrow (org org' : MemoryOrganization) : Prop where
  kept : ∀ realmId realm, org.realms.get? realmId = some realm →
    ∃ realm', org'.realms.get? realmId = some realm' ∧ realm'.realmId = realm.realmId ∧
      RealmGrows (org.lastTimestamp (.realm realmId)) (org'.lastTimestamp (.realm realmId)) realm
        realm'
  new : ∀ realmId realm', org'.realms.get? realmId = some realm' →
    org.realms.get? realmId = none → realm'.realmId = realmId ∧
      RealmLogged (org'.lastTimestamp (.realm realmId)) realm'

theorem RealmsGrow.of_same {topic : TopicAndDiscriminant} {timestamp : DateTime}
    (realms : org'.realms = org.realms)
    (updated : org'.perTopicLastTimestamp =
      Function.update org.perTopicLastTimestamp topic (some timestamp))
    (other : ∀ realmId, topic ≠ .realm realmId) : RealmsGrow org org' := by
  constructor
  · intro realmId realm isRealm
    rw [realms, lastTimestamp_update updated, if_neg (other realmId).symm]
    exact ⟨realm, isRealm, rfl, RealmGrows.refl (le_refl _) rfl rfl⟩
  · intro realmId realm isRealm isNew
    rw [realms, isNew] at isRealm
    cases isRealm

theorem RealmsGrow.of_set {realmId : VlobID} (isRealm : org.realms.get? realmId = some realm)
    (realms : org'.realms = org.realms.set realmId realm') (sameId : realm'.realmId = realm.realmId)
    (others : ∀ other, other ≠ realmId →
      org'.lastTimestamp (.realm other) = org.lastTimestamp (.realm other))
    (grows : RealmGrows (org.lastTimestamp (.realm realmId)) (org'.lastTimestamp (.realm realmId))
      realm realm') : RealmsGrow org org' := by
  constructor
  · intro other found isFound
    rw [realms, Dict.get?_set]
    split
    · rename_i same
      rw [same, isRealm] at isFound
      cases isFound
      rw [same]
      exact ⟨realm', rfl, sameId, grows⟩
    · rename_i different
      rw [others other different]
      exact ⟨found, isFound, rfl, RealmGrows.refl (le_refl _) rfl rfl⟩
  · intro other found isFound isNew
    rw [realms, Dict.get?_set] at isFound
    split at isFound
    · rename_i same
      rw [same, isRealm] at isNew
      cases isNew
    · rw [isNew] at isFound
      cases isFound

theorem others_of_update {realmId : VlobID} {timestamp : DateTime}
    (updated : org'.perTopicLastTimestamp =
      Function.update org.perTopicLastTimestamp (.realm realmId) (some timestamp))
    (other : VlobID) (different : other ≠ realmId) :
    org'.lastTimestamp (.realm other) = org.lastTimestamp (.realm other) := by
  rw [lastTimestamp_update updated, if_neg (by simpa using different)]

theorem RealmsGrow.of_certificate {realmId : VlobID} {timestamp : DateTime}
    {entry : CertificateEntry} (isRealm : org.realms.get? realmId = some realm)
    (realms : org'.realms = org.realms.set realmId realm') (sameId : realm'.realmId = realm.realmId)
    (updated : org'.perTopicLastTimestamp =
      Function.update org.perTopicLastTimestamp (.realm realmId) (some timestamp))
    (later : org.lastTimestamp (.realm realmId) < timestamp) (isEntry : entry.timestamp = timestamp)
    (entries : realm'.entries.Perm (realm.entries ++ [entry]))
    (roles : realm'.roles = realm.roles ∨ ∃ certif raw, certif.timestamp = timestamp ∧
      realm'.roles = realm.roles ++ [(certif, raw)]) : RealmsGrow org org' := by
  refine .of_set isRealm realms sameId (others_of_update updated) ?_
  rw [lastTimestamp_update updated, if_pos rfl]
  exact ⟨later.le, Or.inr ⟨entry, isEntry ▸ later, isEntry, entries⟩, roles⟩

theorem perm_insert {front back : List CertificateEntry} {entry : CertificateEntry} :
    (front ++ [entry] ++ back).Perm (front ++ back ++ [entry]) := by
  rw [List.append_assoc, List.append_assoc]
  exact List.Perm.append_left _ List.perm_append_comm

theorem entries_role {certif : RealmRoleCertificate} {raw : List Byte}
    (roles : realm'.roles = realm.roles ++ [(certif, raw)])
    (rotations : realm'.keyRotations.map rotationEntry = realm.keyRotations.map rotationEntry)
    (renames : realm'.renames = realm.renames) :
    realm'.entries.Perm (realm.entries ++ [roleEntry (certif, raw)]) := by
  have split : realm.entries = realm.roles.map roleEntry ++
      (realm.keyRotations.map rotationEntry ++ realm.renames.map nameEntry) := List.append_assoc _ _ _
  rw [split, MemoryRealm.entries, roles, rotations, renames, List.map_append, List.append_assoc]
  exact perm_insert

theorem entries_rotation {rotation : MemoryRealmKeyRotation} (roles : realm'.roles = realm.roles)
    (rotations : realm'.keyRotations = realm.keyRotations ++ [rotation])
    (renames : realm'.renames = realm.renames) :
    realm'.entries.Perm (realm.entries ++ [rotationEntry rotation]) := by
  rw [MemoryRealm.entries, MemoryRealm.entries, roles, rotations, renames, List.map_append,
    ← List.append_assoc]
  exact perm_insert

theorem entries_name {certif : RealmNameCertificate} {raw : List Byte}
    (roles : realm'.roles = realm.roles) (rotations : realm'.keyRotations = realm.keyRotations)
    (renames : realm'.renames = realm.renames ++ [(certif, raw)]) :
    realm'.entries.Perm (realm.entries ++ [nameEntry (certif, raw)]) := by
  rw [MemoryRealm.entries, MemoryRealm.entries, roles, rotations, renames, List.map_append,
    ← List.append_assoc]
  exact List.Perm.refl _

theorem Effect.realms_grow {kind : OperationKind} {topic : TopicAndDiscriminant}
    (effect : Effect org kind topic org') : RealmsGrow org org' := by
  cases effect with
  | user => exact .of_same rfl rfl (by simp)
  | device => exact .of_same rfl rfl (by simp)
  | revocation => exact .of_same rfl rfl (by simp)
  | update => exact .of_same rfl rfl (by simp)
  | @newRealm certif authorUser now raw hasAuthor notOutsider owner isNew later =>
    have isTopic := @lastTimestamp_update org (org.withNewRealm now certif raw)
      (.realm certif.realmId) certif.timestamp rfl
    constructor
    · intro other found isFound
      have different : other ≠ certif.realmId := by
        rintro rfl
        rw [isNew] at isFound
        cases isFound
      refine ⟨found, (Dict.get?_set_of_ne different).trans isFound, rfl, ?_⟩
      rw [isTopic, if_neg (by simpa using different)]
      exact RealmGrows.refl (le_refl _) rfl rfl
    · intro other found isFound absent
      change (org.realms.set _ _).get? other = some found at isFound
      rcases Dict.found_set rfl isFound with ⟨same, rfl⟩ | ⟨-, isFound⟩
      · rw [isTopic, same, if_pos rfl]
        refine ⟨rfl, ?_, List.pairwise_singleton _ _⟩
        intro entry member
        rw [List.mem_singleton.mp member]
        exact le_refl _
      · rw [absent] at isFound
        cases isFound
  | @share certif authorUser user authorId realm rotation raw access hasAuthor other role isUser
      active isRealm allowed outsider changes later isLast =>
    have rotations : (realm.keyRotations.dropLast ++
        [addAccess rotation certif.userId certif.timestamp access]).map rotationEntry =
        realm.keyRotations.map rotationEntry := by
      obtain ⟨front, split⟩ := List.getLast?_eq_some_iff.mp isLast
      rw [split, List.dropLast_concat, List.map_append, List.map_append]
      rfl
    exact .of_certificate isRealm rfl rfl rfl
      (lt_of_le_of_lt KeysKept.lastTimestamp_le_forRole later) rfl
      (entries_role rfl rotations rfl) (Or.inr ⟨certif, raw, rfl, rfl⟩)
  | @unshare certif authorUser user authorId realm raw hasAuthor other noRole isUser isRealm allowed
      changes later =>
    exact .of_certificate isRealm rfl rfl rfl
      (lt_of_le_of_lt KeysKept.lastTimestamp_le_forRole later) rfl
      (entries_role rfl rfl rfl) (Or.inr ⟨certif, raw, rfl, rfl⟩)
  | @rename certif authorUser authorId realm raw hasAuthor isRealm owner index later =>
    exact .of_certificate isRealm rfl rfl rfl (lt_of_le_of_lt (le_max_right _ _) later) rfl
      (entries_name rfl rfl rfl) (Or.inl rfl)
  | setup => exact .of_same rfl rfl (by simp)
  | deletion => exact .of_same rfl rfl (by simp)
  | service => exact .of_same rfl rfl (by simp)
  | revokedService => exact .of_same rfl rfl (by simp)

theorem StoreEffect.realms_grow {call : Waiting} (effect : StoreEffect org call org')
    (valid : call.Valid org) : RealmsGrow org org' := by
  cases effect with
  | createVlob isRealm =>
    exact .of_set isRealm rfl rfl (fun _ _ => rfl) (RealmGrows.refl (le_refl _) rfl rfl)
  | updateVlob isRealm =>
    exact .of_set isRealm rfl rfl (fun _ _ => rfl) (RealmGrows.refl (le_refl _) rfl rfl)
  | @rotateKey rotation realm isRealm later =>
    obtain ⟨userId, user, found, valid⟩ := valid
    have after : org.lastTimestamp (.realm rotation.certif.realmId) < rotation.certif.timestamp := by
      rw [← valid.realmTopic]
      exact lt_of_le_of_lt (le_max_right _ _) later
    exact .of_certificate isRealm rfl rfl rfl after rfl (entries_rotation rfl rfl rfl) (Or.inl rfl)

end Realms

section Sequester
variable {org org' : MemoryOrganization} {last last' : DateTime}
  {log log' : List CertificateEntry}

/-- A log that is kept in its order. -/
structure InOrder (last : DateTime) (log : List CertificateEntry) : Prop where
  dated : ∀ entry ∈ log, entry.timestamp ≤ last
  chronological : Chronological CertificateEntry.timestamp log

/-- A log gets at most one entry, of a later date. -/
def Appends (last last' : DateTime) (log log' : List CertificateEntry) : Prop :=
  last ≤ last' ∧ (log' = log ∨
    ∃ entry, last < entry.timestamp ∧ entry.timestamp = last' ∧ log' = log ++ [entry])

theorem InOrder.appends (inOrder : InOrder last log) (appends : Appends last last' log log') :
    InOrder last' log' ∧ Continues log log' := by
  obtain ⟨later, rfl | ⟨entry, isLater, rfl, rfl⟩⟩ := appends
  · exact ⟨⟨fun entry member => (inOrder.dated entry member).trans later, inOrder.chronological⟩,
      Extends.refl _⟩
  · have before : ∀ x ∈ log, ∀ y ∈ [entry], x.timestamp < y.timestamp := by
      intro x isOld y isNew
      rw [List.mem_singleton.mp isNew]
      exact lt_of_le_of_lt (inOrder.dated x isOld) isLater
    refine ⟨⟨?_, ?_⟩, [entry], rfl, before⟩
    · intro x member
      rcases List.mem_append.mp member with isOld | isNew
      · exact (inOrder.dated x isOld).trans later
      · rw [List.mem_singleton.mp isNew]
    · rw [Chronological, List.pairwise_append]
      exact ⟨inOrder.chronological, List.pairwise_singleton _ _,
        fun x isOld y isNew => (before x isOld y isNew).le⟩

/-- The revoked service is the one that was created last. -/
def LastServiceRevoked (org : MemoryOrganization) (kind : OperationKind) : Prop :=
  ∀ certif, kind = .revokeService (some certif) → ∀ services, org.sequesterServices = some services →
    services.keys.getLast? = some certif.serviceId

theorem sequester_appends_of_same {topic : TopicAndDiscriminant} {timestamp : DateTime}
    (authority : org'.sequesterAuthority = org.sequesterAuthority)
    (services : org'.sequesterServices = org.sequesterServices)
    (updated : org'.perTopicLastTimestamp =
      Function.update org.perTopicLastTimestamp topic (some timestamp))
    (other : topic ≠ .sequester) :
    Appends (org.lastTimestamp .sequester) (org'.lastTimestamp .sequester)
      org.sequesterCertificates org'.sequesterCertificates := by
  rw [lastTimestamp_update updated, if_neg other.symm]
  refine ⟨le_refl _, Or.inl ?_⟩
  rw [sequesterCertificates, authority, services, sequesterCertificates]

theorem sequester_appends_of_services {timestamp : DateTime} {entry : CertificateEntry}
    {services services' : Dict SequesterServiceID MemorySequesterService}
    (isServices : org.sequesterServices = some services)
    (isServices' : org'.sequesterServices = some services')
    (authority : org'.sequesterAuthority = org.sequesterAuthority)
    (updated : org'.perTopicLastTimestamp =
      Function.update org.perTopicLastTimestamp .sequester (some timestamp))
    (later : org.lastTimestamp .sequester < timestamp) (isEntry : entry.timestamp = timestamp)
    (entries : services'.values.flatMap serviceEntries =
      services.values.flatMap serviceEntries ++ [entry]) :
    Appends (org.lastTimestamp .sequester) (org'.lastTimestamp .sequester)
      org.sequesterCertificates org'.sequesterCertificates := by
  rw [lastTimestamp_update updated, if_pos rfl]
  refine ⟨later.le, ?_⟩
  rw [sequesterCertificates, sequesterCertificates, authority, isServices, isServices']
  cases org.sequesterAuthority with
  | none => exact Or.inl rfl
  | some authority =>
    refine Or.inr ⟨entry, isEntry ▸ later, isEntry, ?_⟩
    simp only [entries]
    rfl

theorem Effect.sequester_appends {kind : OperationKind} {topic : TopicAndDiscriminant}
    (effect : Effect org kind topic org') (isLast : LastServiceRevoked org kind) :
    Appends (org.lastTimestamp .sequester) (org'.lastTimestamp .sequester)
      org.sequesterCertificates org'.sequesterCertificates := by
  cases effect with
  | user => exact sequester_appends_of_same rfl rfl rfl (by simp)
  | device => exact sequester_appends_of_same rfl rfl rfl (by simp)
  | revocation => exact sequester_appends_of_same rfl rfl rfl (by simp)
  | update => exact sequester_appends_of_same rfl rfl rfl (by simp)
  | newRealm => exact sequester_appends_of_same rfl rfl rfl (by simp)
  | share => exact sequester_appends_of_same rfl rfl rfl (by simp)
  | unshare => exact sequester_appends_of_same rfl rfl rfl (by simp)
  | rename => exact sequester_appends_of_same rfl rfl rfl (by simp)
  | setup => exact sequester_appends_of_same rfl rfl rfl (by simp)
  | deletion => exact sequester_appends_of_same rfl rfl rfl (by simp)
  | @service services certif raw serviceType isServices isNew later =>
    have entries : (services.set certif.serviceId
        ⟨certif, raw, serviceType, none⟩).values.flatMap serviceEntries =
        services.values.flatMap serviceEntries ++
          [⟨certif.timestamp, 0, raw, .sequester (.service certif)⟩] := by
      rw [Dict.values_set_of_absent isNew, List.flatMap_append]
      rfl
    exact sequester_appends_of_services isServices rfl rfl rfl later rfl entries
  | @revokedService services service certif raw isServices isService notRevoked later =>
    have lastKey := isLast certif rfl services isServices
    rw [Dict.keys, List.getLast?_map, Option.map_eq_some_iff] at lastKey
    obtain ⟨⟨serviceId, found⟩, isItem, same⟩ := lastKey
    change serviceId = certif.serviceId at same
    subst same
    obtain ⟨front, split⟩ := List.getLast?_eq_some_iff.mp isItem
    have isFound : found = service := by
      apply Option.some.inj
      rw [← isService, eq_comm, Dict.get?_eq_some_iff, split]
      simp
    subst isFound
    have entries : (services.set certif.serviceId
        { found with revoked := some (certif, raw) }).values.flatMap serviceEntries =
        services.values.flatMap serviceEntries ++
          [⟨certif.timestamp, 0, raw, .sequester (.revokedService certif)⟩] := by
      rw [Dict.values, Dict.items_set_of_split split, Dict.values, split, List.map_append,
        List.map_append, List.flatMap_append, List.flatMap_append, List.append_assoc]
      simp [serviceEntries, notRevoked]
    exact sequester_appends_of_services isServices rfl rfl rfl later rfl entries

theorem StoreEffect.sequester_appends {call : Waiting} (effect : StoreEffect org call org') :
    Appends (org.lastTimestamp .sequester) (org'.lastTimestamp .sequester)
      org.sequesterCertificates org'.sequesterCertificates := by
  cases effect with
  | createVlob => exact ⟨le_refl _, Or.inl rfl⟩
  | updateVlob => exact ⟨le_refl _, Or.inl rfl⟩
  | rotateKey => exact sequester_appends_of_same rfl rfl rfl (by simp)

end Sequester

end ParsecCloud.Server

import ParsecCloud.Certif.ShamirTopic
import ParsecCloud.Certif.ShamirViews
import ParsecCloud.Lib.DatedLog
import Mathlib.Algebra.GroupWithZero.Nat

/- The three views on a store reached by batches. The share counts come from setups whose data is
   whole, and of the setups of a user all but the last one are deleted, so that the last one of its
   author, the last one that names us and that of our last share are the same. -/
namespace ParsecCloud.Certif
open Rust HashMap Storage Journal Runs

section Counts
variable {revoked : UserID → Bool} {shares : List (UserID × Nat)} {threshold : Nat}

def totalShares (shares : List (UserID × Nat)) : Nat := (shares.map Prod.snd).sum

def reachableShares (revoked : UserID → Bool) (shares : List (UserID × Nat)) : Nat :=
  totalShares (shares.filter fun share => !revoked share.1)

def revokedShares (revoked : UserID → Bool) (shares : List (UserID × Nat)) :
    List (UserID × Nat) := shares.filter fun share => revoked share.1

theorem totalShares_split (revoked : UserID → Bool) (shares : List (UserID × Nat)) :
    totalShares shares = totalShares (revokedShares revoked shares) +
      reachableShares revoked shares := by
  unfold reachableShares revokedShares
  induction shares with
  | nil => rfl
  | cons share rest ih =>
    cases isRevoked : revoked share.1 with
    | true =>
      simp only [totalShares, List.filter_cons, isRevoked, List.map_cons, List.sum_cons] at ih ⊢
      simp only [if_true, List.map_cons, List.sum_cons, Bool.not_true, Bool.false_eq_true,
        if_false]
      omega
    | false =>
      simp only [totalShares, List.filter_cons, isRevoked, List.map_cons, List.sum_cons] at ih ⊢
      simp only [if_true, List.map_cons, List.sum_cons, Bool.not_false, Bool.false_eq_true,
        if_false]
      omega

theorem totalShares_append (first second : List (UserID × Nat)) :
    totalShares (first ++ second) = totalShares first + totalShares second := by
  simp [totalShares]

/-- The data integrity of a setup bounds its shares, and makes it usable by all its recipients. -/
theorem checkDataIntegrity_iff (brief : ShamirRecoveryBriefCertificate) :
    brief.checkDataIntegrity = .ok () ↔ totalShares brief.perRecipientShares ≤ 255 ∧
      brief.threshold ≤ totalShares brief.perRecipientShares := by
  have sum : brief.perRecipientShares.foldl (fun total share => total + share.2) 0 =
      totalShares brief.perRecipientShares := by
    rw [totalShares, List.sum_eq_foldl, List.foldl_map]
  unfold ShamirRecoveryBriefCertificate.checkDataIntegrity
  dsimp only
  rw [sum]
  split
  · simp
    omega
  · split
    · simp
      omega
    · simp
      omega

/-- What the loop over the recipients has counted. -/
def counted (revoked : UserID → Bool) (shares : List (UserID × Nat)) : ShareCounts :=
  ⟨totalShares shares, totalShares (revokedShares revoked shares),
    ((revokedShares revoked shares).map Prod.fst).toFinset⟩

theorem countShare_counted {done : List (UserID × Nat)} {share : UserID × Nat}
    (fits : totalShares (done ++ [share]) < u64Limit) :
    countShare (counted revoked done) share (revoked share.1) =
      .ok (counted revoked (done ++ [share])) := by
  have split := totalShares_split revoked done
  have one : totalShares [share] = share.2 := by simp [totalShares]
  rw [totalShares_append, one] at fits
  unfold countShare counted revokedShares
  rw [totalShares_append, one]
  cases isRevoked : revoked share.1 with
  | true =>
    have less : totalShares (revokedShares revoked done) + share.2 < u64Limit := by omega
    have more : (done ++ [share]).filter (fun share => revoked share.1) =
        revokedShares revoked done ++ [share] := by
      simp [revokedShares, isRevoked]
    have recipients : insert share.1 ((revokedShares revoked done).map Prod.fst).toFinset =
        ((revokedShares revoked done ++ [share]).map Prod.fst).toFinset := by
      ext recipient
      simp
    rw [more, totalShares_append, one, ← recipients]
    unfold revokedShares at less ⊢
    simp [add_ok fits, add_ok less]
  | false => simp [List.filter_append, isRevoked, add_ok fits]

theorem foldlM_countShare (fits : totalShares shares < u64Limit) (found : UserID → Bool)
    (same : ∀ share ∈ shares, found share.1 = revoked share.1) :
    shares.foldlM (fun counts share => countShare counts share (found share.1)) ⟨0, 0, ∅⟩ =
      .ok (counted revoked shares) := by
  have run : ∃ counts, shares.foldlM (fun counts share => countShare counts share (found share.1))
      ⟨0, 0, ∅⟩ = .ok counts ∧ counts = counted revoked shares := by
    apply foldlM_list (P := fun done counts => counts = counted revoked done)
    · rfl
    · intro done share rest counts isSplit isCounted
      rw [isCounted]
      refine ⟨_, ?_, rfl⟩
      rw [same share (by simp [isSplit])]
      apply countShare_counted
      have whole := totalShares_append (done ++ [share]) rest
      rw [List.append_assoc, List.singleton_append, ← isSplit] at whole
      omega
  obtain ⟨counts, isRun, isCounted⟩ := run
  rw [isRun, isCounted]

/-- Nobody among the recipients is revoked, or else what is left is compared to the threshold. -/
theorem arrange_counted {α : Type} {allValid : α} {withRevoked unusable : Finset UserID → α}
    (whole : threshold ≤ totalShares shares) :
    arrange (counted revoked shares) threshold allValid withRevoked unusable = .ok
      (if revokedShares revoked shares = [] then allValid
      else if threshold ≤ reachableShares revoked shares then
        withRevoked ((revokedShares revoked shares).map Prod.fst).toFinset
      else unusable ((revokedShares revoked shares).map Prod.fst).toFinset) := by
  have split := totalShares_split revoked shares
  have left : totalShares shares - totalShares (revokedShares revoked shares) =
      reachableShares revoked shares := by omega
  have nobody : ((revokedShares revoked shares).map Prod.fst).toFinset = ∅ ↔
      revokedShares revoked shares = [] := by
    rw [List.toFinset_eq_empty_iff, List.map_eq_nil_iff]
  unfold arrange counted
  have le : totalShares (revokedShares revoked shares) ≤ totalShares shares := by omega
  rw [sub_ok le, left]
  by_cases none : revokedShares revoked shares = []
  · have all : threshold ≤ reachableShares revoked shares := by
      rw [none] at split
      simp only [totalShares, List.map_nil, List.sum_nil] at split whole
      omega
    simp [none, all]
  · have some_ : ((revokedShares revoked shares).map Prod.fst).toFinset ≠ ∅ := by
      rw [Ne, nobody]
      exact none
    by_cases usable : threshold ≤ reachableShares revoked shares
    · simp only [ok_bind, some_, none, usable, decide_true, if_true, if_false]
      rfl
    · simp only [ok_bind, some_, none, usable, decide_false, if_false]
      rfl

end Counts

section Integrity
variable {device : LocalDevice} {store store' : Store}

/-- The data of the setup is whole. -/
def WholeBrief (certif : Certificate) : Prop :=
  ∀ brief, certif = .shamirRecovery (.brief brief) → brief.checkDataIntegrity = .ok ()

theorem whole_of_signed {α : Type} {wrap : α → Certificate} {signed : Signed α}
    (other : ∀ content brief, wrap content ≠ .shamirRecovery (.brief brief)) :
    ∀ certif ∈ signed.certificates wrap, WholeBrief certif := by
  intro certif member brief isBrief
  cases signed with
  | malformed error => cases member
  | certificate content signedBy =>
    rw [List.mem_singleton.mp member] at isBrief
    exact absurd isBrief (other content brief)

theorem addShamirRecovery_whole {state state' : NextShamirCertifExpect × Store}
    {signed : Signed ShamirRecoveryCertificate}
    (run : addShamirRecovery device state signed = .ok state') :
    ∀ certif ∈ signed.certificates .shamirRecovery, WholeBrief certif := by
  obtain ⟨validated, checked, -⟩ := bind_eq_ok.mp run
  obtain ⟨⟨content, key⟩, load, -⟩ := bind_eq_ok.mp checked
  have load := loaded_ok.mp load
  intro certif member brief isBrief
  rw [unsecureLoad_ok (unsecureLoadShamirRecovery_ok load) .shamirRecovery,
    List.mem_singleton] at member
  rw [member] at isBrief
  cases isBrief
  unfold unsecureLoadShamirRecovery at load
  obtain ⟨⟨found, signedBy⟩, read, load⟩ := bind_eq_ok.mp load
  cases found with
  | brief other =>
    obtain ⟨done, whole, load⟩ := bind_eq_ok.mp load
    cases load
    exact whole
  | share other => cases load
  | deletion other => cases load

theorem addTopics_whole {batch : Batch} (run : addTopics device batch store = .ok store') :
    ∀ certif ∈ batch.arrivals, WholeBrief certif := by
  apply addTopics_relates (R := fun added _ _ => ∀ certif ∈ added, WholeBrief certif) _ _ _ _ _ _
    run
  · intro store certif member
    cases member
  · intro first second store store' store'' whole whole' certif member
    rcases List.mem_append.mp member with isFirst | isSecond
    · exact whole certif isFirst
    · exact whole' certif isSecond
  · intro store signed store' run certif member brief isBrief
    cases signed with
    | _ => simp [SignedSequester.certificates, isBrief] at member
  · exact fun _ _ _ _ => whole_of_signed fun _ _ same => by cases same
  · exact fun _ _ _ _ _ => whole_of_signed fun _ _ same => by cases same
  · exact fun _ _ _ run => addShamirRecovery_whole run

theorem whole_of_reachable (reached : Reachable device store) :
    ∀ certif ∈ store.storage, WholeBrief certif := by
  have kept : Authentic store ∧ ∀ certif ∈ store.storage, WholeBrief certif := by
    apply reached.keeps
    · refine ⟨⟨trusted_empty [], admitted_nil⟩, ?_⟩
      intro certif member
      cases member
    · rintro store batch store' ⟨sound, whole⟩ - ⟨outcome, run⟩
      rcases addCertificatesBatch_adds run with adds | ⟨-, isEmpty⟩
      · obtain ⟨sound', added⟩ := adds sound
        refine ⟨sound', ?_⟩
        rw [added]
        intro certif member
        rcases List.mem_append.mp member with before | arrived
        · exact whole certif before
        · rcases addCertificatesBatch_cases run with ⟨empty, -⟩ | ⟨_, _, _, _, topics, _⟩
          · rw [arrivals_of_isEmpty empty] at arrived
            cases arrived
          · exact addTopics_whole topics certif arrived
      · rw [isEmpty]
        refine ⟨⟨trusted_empty [], admitted_nil⟩, ?_⟩
        intro certif member
        cases member
  exact kept.2

end Integrity

section Reads
variable {rows : Storage}

def Storage.revokedNow (rows : Storage) (userId : UserID) : Bool :=
  match rows.getRevokedUserCertificate .current userId with
  | .ok (some _) => true
  | _ => false

theorem isRevokedNow_eq (rows : Storage) (userId : UserID) :
    isRevokedNow rows userId = .ok (rows.revokedNow userId) := by
  obtain ⟨found, read⟩ := @Selects.getMaybe_total _ rows _ .current _ _ _
    (selects_revokedUser userId)
  have read : rows.getRevokedUserCertificate .current userId = .ok found := read
  unfold isRevokedNow revokedNow
  rw [read]
  cases found with
  | none => rfl
  | some certif => rfl

theorem selects_allShamirDeletions :
    Selects GetCertificateQuery.shamirRecoveryDeletionCertificates isShamirRecoveryDeletion
      (fun c => .shamirRecovery (.deletion c)) (fun _ => True) :=
  reads_shamirRecoveryDeletion.noFilter

theorem foldlM_mapError {ε ε' α σ : Type} {f : σ → α → Except ε σ} {wrap : ε → ε'} {l : List α}
    {s : σ} : l.foldlM (fun s x => (f s x).mapError wrap) s = (l.foldlM f s).mapError wrap := by
  induction l generalizing s with
  | nil => rfl
  | cons x rest ih =>
    rw [List.foldlM_cons, List.foldlM_cons]
    cases f s x with
    | error e => rfl
    | ok next => exact ih

theorem foldlM_isRevokedNow {shares : List (UserID × Nat)}
    (fits : totalShares shares < u64Limit) :
    shares.foldlM (fun counts share => do
      let revoked ← isRevokedNow rows share.1
      (countShare counts share revoked).mapError ShamirViewError.panicked) ⟨0, 0, ∅⟩ =
      .ok (counted rows.revokedNow shares) := by
  simp only [isRevokedNow_eq]
  have turns := @foldlM_mapError _ _ _ _
    (fun counts share => countShare counts share (rows.revokedNow share.1))
    ShamirViewError.panicked shares ⟨0, 0, ∅⟩
  rw [foldlM_countShare fits rows.revokedNow fun _ _ => rfl] at turns
  exact turns

theorem foldlM_countUsable {shares : List (UserID × Nat)} (fits : totalShares shares < u64Limit) :
    shares.foldlM (countUsable rows) 0 = .ok (reachableShares rows.revokedNow shares) := by
  have general : ∀ usable, usable + totalShares shares < u64Limit →
      shares.foldlM (countUsable rows) usable =
        .ok (usable + reachableShares rows.revokedNow shares) := by
    clear fits
    induction shares with
    | nil => exact fun usable _ => rfl
    | cons share rest ih =>
      intro usable fits
      have total : totalShares (share :: rest) = share.2 + totalShares rest := by
        simp [totalShares]
      rw [total] at fits
      rw [List.foldlM_cons, countUsable, isRevokedNow_eq]
      cases isRevoked : rows.revokedNow share.1 with
      | true =>
        have left : reachableShares rows.revokedNow (share :: rest) =
            reachableShares rows.revokedNow rest := by
          simp [reachableShares, isRevoked]
        rw [left]
        exact ih usable (by omega)
      | false =>
        have left : reachableShares rows.revokedNow (share :: rest) =
            share.2 + reachableShares rows.revokedNow rest := by
          simp [reachableShares, isRevoked, totalShares]
        rw [left, ← Nat.add_assoc, ← ih (usable + share.2) (by omega)]
        have added : add usable share.2 = .ok (usable + share.2) := add_ok (by omega)
        simp only [added]
        rfl
  rw [general 0 (by omega), Nat.zero_add]

end Reads

section LastSetups
variable {us user : UserID} {rows : Storage} {briefs : List ShamirRecoveryBriefCertificate}
  {deletions : List ShamirRecoveryDeletionCertificate} {perUser : LastShamirs}

theorem lookup_keepBriefs (us user : UserID) (briefs : List ShamirRecoveryBriefCertificate) :
    (briefs.foldl (keepBrief us) ∅).lookup user =
      (briefs.filter fun brief => brief.userId = user ∧ us ∈ brief.recipients).getLast?.map
        fun brief => (brief, none) := by
  induction briefs using List.reverseRecOn with
  | nil => rfl
  | append_singleton briefs brief ih =>
    rw [List.foldl_append, List.foldl_cons, List.foldl_nil, List.filter_append, keepBrief]
    by_cases listed : us ∈ brief.recipients
    · rw [if_pos listed, lookup_insert_ite, ih]
      by_cases same : user = brief.userId
      · simp [same, listed]
      · simp [same, Ne.symm same]
    · rw [if_neg listed, ih]
      simp [listed]

theorem lookup_markDeleted (user : UserID) (perUser : LastShamirs)
    (deletions : List ShamirRecoveryDeletionCertificate) :
    (deletions.foldl markDeleted perUser).lookup user = (perUser.lookup user).map fun last =>
      (last.1, (deletions.filter fun deletion => deletion.setupToDeleteUserId = user ∧
        deletion.setupToDeleteTimestamp = last.1.timestamp).getLast?.or last.2) := by
  induction deletions using List.reverseRecOn with
  | nil => simp
  | append_singleton deletions deletion ih =>
    rw [List.foldl_append, List.foldl_cons, List.foldl_nil, markDeleted]
    simp only [List.filter_append]
    by_cases same : deletion.setupToDeleteUserId = user
    · rw [same, ih]
      cases found : perUser.lookup user with
      | none => simp [ih, found]
      | some last =>
        by_cases date : deletion.setupToDeleteTimestamp = last.1.timestamp
        · simp [date, same]
        · simp [ih, found, date, Ne.symm date]
    · cases found : (deletions.foldl markDeleted perUser).lookup deletion.setupToDeleteUserId with
      | none =>
        simp [ih, same]
      | some last =>
        by_cases date : last.1.timestamp = deletion.setupToDeleteTimestamp
        · simp [date, same, Ne.symm same, ih]
        · simp [date, same, ih]

theorem mem_valuesIn {ν : Type} {order : HashOrder UserID} {map : HashMap UserID ν} {v : ν} :
    v ∈ valuesIn order map ↔ ∃ user, map.lookup user = some v := by
  rw [valuesIn, List.mem_filterMap]
  constructor
  · rintro ⟨user, -, found⟩
    exact ⟨user, found⟩
  · rintro ⟨user, found⟩
    exact ⟨user, (order.mem_iff _ _).mpr (mem_keys_iff.mpr ⟨v, found⟩), found⟩

theorem valuesIn_keys {ν : Type} {order : HashOrder UserID} {map : HashMap UserID ν}
    {key : ν → UserID} (told : ∀ user v, map.lookup user = some v → key v = user) :
    ((valuesIn order map).map key).Nodup := by
  have same : (valuesIn order map).map key = order.list map.keys := by
    have all : ∀ user ∈ order.list map.keys, ∃ v, map.lookup user = some v := by
      intro user member
      exact mem_keys_iff.mp ((order.mem_iff _ _).mp member)
    unfold valuesIn
    generalize order.list map.keys = users at all
    induction users with
    | nil => rfl
    | cons user rest ih =>
      obtain ⟨v, found⟩ := all user List.mem_cons_self
      rw [List.filterMap_cons, found, List.map_cons, told user v found,
        ih fun other member => all other (List.mem_cons_of_mem _ member)]
  rw [same]
  exact order.nodup _

end LastSetups

section List_
variable {us user : UserID} {rows : Storage} {order : HashOrder UserID}

theorem mem_allRecipients {lasts : List (ShamirRecoveryBriefCertificate ×
    Option ShamirRecoveryDeletionCertificate)} {recipient : UserID} :
    recipient ∈ allRecipients lasts ↔ ∃ last ∈ lasts, recipient ∈ last.1.recipients := by
  induction lasts using List.reverseRecOn with
  | nil => simp [allRecipients]
  | append_singleton lasts last ih =>
    unfold allRecipients at ih ⊢
    rw [List.foldl_append, List.foldl_cons, List.foldl_nil, Finset.mem_union, ih]
    simp [or_and_right, exists_or]

theorem allRevokedRecipients_eq (order : HashOrder UserID) (rows : Storage)
    (recipients : Finset UserID) : ∃ revoked, allRevokedRecipients order rows recipients =
      .ok revoked ∧ ∀ id, id ∈ revoked ↔ id ∈ recipients ∧ rows.revokedNow id = true := by
  have general : ∀ (ids : List UserID) (before : Finset UserID), ∃ revoked,
      ids.foldlM (fun revoked recipient => do
        return if ← isRevokedNow rows recipient then insert recipient revoked else revoked) before =
        (.ok revoked : Except ShamirViewError _) ∧
      ∀ id, id ∈ revoked ↔ id ∈ before ∨ id ∈ ids ∧ rows.revokedNow id = true := by
    intro ids
    induction ids with
    | nil => exact fun before => ⟨before, rfl, by simp⟩
    | cons recipient rest ih =>
      intro before
      rw [List.foldlM_cons, isRevokedNow_eq]
      cases isRevoked : rows.revokedNow recipient with
      | true =>
        obtain ⟨revoked, run, members⟩ := ih (insert recipient before)
        refine ⟨revoked, run, ?_⟩
        intro id
        rw [members, Finset.mem_insert, List.mem_cons]
        by_cases same : id = recipient
        · simp [same, isRevoked]
        · simp [same]
      | false =>
        obtain ⟨revoked, run, members⟩ := ih before
        refine ⟨revoked, run, ?_⟩
        intro id
        rw [members, List.mem_cons]
        by_cases same : id = recipient
        · simp [same, isRevoked]
        · simp [same]
  obtain ⟨revoked, run, members⟩ := general (order.list recipients) ∅
  refine ⟨revoked, run, ?_⟩
  intro id
  rw [members, order.mem_iff]
  simp

def infoOf (revoked : UserID → Bool) (last : ShamirRecoveryBriefCertificate ×
    Option ShamirRecoveryDeletionCertificate) : OtherShamirRecoveryInfo :=
  match last with
  | (brief, some deletion) => .deleted brief.userId brief.setup deletion.timestamp deletion.author
  | (brief, none) =>
    let revokedRecipients :=
      ((revokedShares revoked brief.perRecipientShares).map Prod.fst).toFinset
    if revokedShares revoked brief.perRecipientShares = [] then
      .setupAllValid brief.userId brief.setup
    else if brief.threshold ≤ reachableShares revoked brief.perRecipientShares then
      .setupWithRevokedRecipients brief.userId brief.setup revokedRecipients
    else .setupButUnusable brief.userId brief.setup revokedRecipients

theorem otherInfo_eq {allRevoked : Finset UserID} {revoked : UserID → Bool}
    {last : ShamirRecoveryBriefCertificate × Option ShamirRecoveryDeletionCertificate}
    (whole : last.1.checkDataIntegrity = .ok ())
    (same : ∀ id ∈ last.1.recipients, id ∈ allRevoked ↔ revoked id = true) :
    otherInfo allRevoked last = .ok (infoOf revoked last) := by
  obtain ⟨brief, deletion⟩ := last
  cases deletion with
  | some deletion => rfl
  | none =>
    obtain ⟨bound, enough⟩ := (checkDataIntegrity_iff brief).mp whole
    have fits : totalShares brief.perRecipientShares < u64Limit := by
      unfold u64Limit
      omega
    have sameShares : ∀ share ∈ brief.perRecipientShares,
        decide (share.1 ∈ allRevoked) = revoked share.1 := by
      intro share member
      have iff_ := same share.1 (List.mem_map_of_mem member)
      cases isRevoked : revoked share.1 with
      | true => exact decide_eq_true (iff_.mpr isRevoked)
      | false =>
        apply decide_eq_false
        rw [iff_, isRevoked]
        exact Bool.false_ne_true
    unfold otherInfo
    dsimp only
    rw [foldlM_countShare fits (fun id => decide (id ∈ allRevoked)) sameShares, ok_bind,
      arrange_counted enough]
    rfl

theorem infoOf_userId (revoked : UserID → Bool) (last : ShamirRecoveryBriefCertificate ×
    Option ShamirRecoveryDeletionCertificate) : (infoOf revoked last).userId = last.1.userId := by
  obtain ⟨brief, deletion⟩ := last
  cases deletion with
  | some deletion => rfl
  | none =>
    unfold infoOf
    dsimp only
    split
    · rfl
    · split
      · rfl
      · rfl

theorem infoOf_setup (revoked : UserID → Bool) (last : ShamirRecoveryBriefCertificate ×
    Option ShamirRecoveryDeletionCertificate) : (infoOf revoked last).setup = last.1.setup := by
  obtain ⟨brief, deletion⟩ := last
  cases deletion with
  | some deletion => rfl
  | none =>
    unfold infoOf
    dsimp only
    split
    · rfl
    · split
      · rfl
      · rfl

end List_

/-- The last setup that names us, among those of its author. -/
structure LatestBrief (us : UserID) (rows : Storage) (brief : ShamirRecoveryBriefCertificate) :
    Prop where
  stored : .shamirRecovery (.brief brief) ∈ rows
  listed : us ∈ brief.recipients
  latest : ∀ other, .shamirRecovery (.brief other) ∈ rows → other.userId = brief.userId →
    us ∈ other.recipients → other.timestamp ≤ brief.timestamp

def DeletionStored (rows : Storage) (brief : ShamirRecoveryBriefCertificate) : Prop :=
  ∃ deletion, .shamirRecovery (.deletion deletion) ∈ rows ∧ Deletes deletion brief

section Setups
variable {us : UserID} {rows : Storage} {briefs : List ShamirRecoveryBriefCertificate}
  {deletions : List ShamirRecoveryDeletionCertificate}

section Loops
variable (isBriefs : rows.getShamirRecoveryBriefs .current = .ok briefs)
  (isDeletions : rows.getShamirRecoveryDeletions .current = .ok deletions)
include isBriefs

theorem mem_foundBriefs {brief : ShamirRecoveryBriefCertificate} :
    brief ∈ briefs ↔ .shamirRecovery (.brief brief) ∈ rows := by
  rw [selects_shamirBriefs.mem_getMultiple isBriefs, and_true]

theorem foundBriefs_ordered : briefs.Pairwise fun a b => a.timestamp ≤ b.timestamp := by
  obtain ⟨found, isFound, -, ordered⟩ := @Selects.getMultiple_perm _ rows _ .current _ _ _
    selects_shamirBriefs
  have same : Except.ok briefs = Except.ok found := isBriefs.symm.trans isFound
  cases same
  exact ordered

theorem latest_of_last {user : UserID} {brief : ShamirRecoveryBriefCertificate}
    (last : (briefs.filter fun brief => brief.userId = user ∧ us ∈ brief.recipients).getLast? =
      some brief) : brief.userId = user ∧ LatestBrief us rows brief := by
  obtain ⟨member, kept⟩ := List.mem_filter.mp (List.mem_of_getLast? last)
  obtain ⟨ofUser, listed⟩ := of_decide_eq_true kept
  refine ⟨ofUser, (mem_foundBriefs isBriefs).mp member, listed, ?_⟩
  intro other stored sameUser listed'
  have ordered := (foundBriefs_ordered isBriefs).filter
    fun brief => decide (brief.userId = user ∧ us ∈ brief.recipients)
  apply @DatedLog.Chronological.le_last _ _ _ ShamirRecoveryBriefCertificate.timestamp _ ordered
  · rw [DatedLog.lastDate, last, Option.map_some]
  · apply List.mem_filter.mpr
    exact ⟨(mem_foundBriefs isBriefs).mpr stored,
      decide_eq_true ⟨sameUser.trans ofUser, listed'⟩⟩

theorem lastShamirs_complete (deletions : List ShamirRecoveryDeletionCertificate)
    {brief : ShamirRecoveryBriefCertificate}
    (stored : .shamirRecovery (.brief brief) ∈ rows) (listed : us ∈ brief.recipients) :
    ∃ last, (deletions.foldl markDeleted (briefs.foldl (keepBrief us) ∅)).lookup brief.userId =
      some last := by
  have member : brief ∈ briefs.filter fun other =>
      other.userId = brief.userId ∧ us ∈ other.recipients :=
    List.mem_filter.mpr ⟨(mem_foundBriefs isBriefs).mpr stored, decide_eq_true ⟨rfl, listed⟩⟩
  rw [lookup_markDeleted, lookup_keepBriefs, Option.map_map]
  have some_ := List.getLast?_isSome.mpr (List.ne_nil_of_mem member)
  obtain ⟨last, isLast⟩ := Option.isSome_iff_exists.mp some_
  rw [isLast]
  exact ⟨_, rfl⟩

include isDeletions

omit isBriefs in
theorem mem_foundDeletions {deletion : ShamirRecoveryDeletionCertificate} :
    deletion ∈ deletions ↔ .shamirRecovery (.deletion deletion) ∈ rows := by
  rw [selects_allShamirDeletions.mem_getMultiple isDeletions, and_true]

theorem lastShamirs_entry {user : UserID} {last : ShamirRecoveryBriefCertificate ×
    Option ShamirRecoveryDeletionCertificate}
    (found : (deletions.foldl markDeleted (briefs.foldl (keepBrief us) ∅)).lookup user =
      some last) : last.1.userId = user ∧ LatestBrief us rows last.1 ∧
      (last.2.isSome = true ↔ DeletionStored rows last.1) := by
  rw [lookup_markDeleted, lookup_keepBriefs, Option.map_map] at found
  obtain ⟨brief, isLast, isEntry⟩ := Option.map_eq_some_iff.mp found
  obtain ⟨ofUser, latest⟩ := latest_of_last isBriefs isLast
  rw [← isEntry]
  refine ⟨ofUser, latest, ?_⟩
  simp only [Function.comp_apply, Option.or_none, List.getLast?_isSome, ne_eq,
    List.filter_eq_nil_iff, decide_eq_true_eq, not_forall, not_not]
  constructor
  · rintro ⟨deletion, member, sameUser, date⟩
    exact ⟨deletion, (mem_foundDeletions isDeletions).mp member,
      sameUser.trans ofUser.symm, date⟩
  · rintro ⟨deletion, stored, sameUser, date⟩
    exact ⟨deletion, (mem_foundDeletions isDeletions).mpr stored,
      sameUser.trans ofUser, date⟩

end Loops

section Topic
variable (topic : ShamirTopic us none rows) (accepted : Admitted Accepted rows)
  {brief : ShamirRecoveryBriefCertificate}
include topic

theorem lastBriefForAuthor (latest : LatestBrief us rows brief)
    (notDeleted : ¬DeletionStored rows brief) :
    rows.getLastShamirRecoveryBriefCertificateForAuthor .current brief.userId =
      .ok (some brief) := by
  obtain ⟨found, read⟩ := @Selects.getMaybe_total _ rows _ .current _ _ _
    (selects_userShamirBriefs brief.userId)
  have isRead : rows.getLastShamirRecoveryBriefCertificateForAuthor .current brief.userId =
    .ok found := read
  rw [isRead]
  cases found with
  | none =>
    have late := (selects_userShamirBriefs brief.userId).getMaybe_none read latest.stored rfl
    cases late
  | some last =>
    obtain ⟨stored, ofUser, -, newest⟩ :=
      (selects_userShamirBriefs brief.userId).getMaybe_some read
    have le : brief.timestamp ≤ last.timestamp := newest brief latest.stored rfl rfl
    rcases lt_or_eq_of_le le with older | same
    · obtain ⟨deletion, isStored, deletes, -⟩ :=
        older_deleted topic.history latest.stored stored ofUser.symm older
      exact absurd ⟨deletion, isStored, deletes⟩ notDeleted
    · rw [briefs_unique topic.history latest.stored stored same]

include accepted

theorem share_user {share : ShamirRecoveryShareCertificate}
    (shareStored : .shamirRecovery (.share share) ∈ rows)
    (stored : .shamirRecovery (.brief brief) ∈ rows) (author : share.author = brief.author) :
    share.userId = brief.userId := by
  obtain ⟨before, within, met⟩ := topic.history.mem shareStored
  obtain ⟨before', within', met'⟩ := topic.history.mem stored
  obtain ⟨⟨a, storedA, idA, userA, -⟩, -⟩ := met'.brief_related
  cases met with
  | elsewhere _ other => exact absurd rfl (other _)
  | share _ _ ofUser =>
    obtain ⟨b, storedB, idB, userB, -⟩ := ofUser
    have same := devices_unique accepted b a (within storedB) (within' storedA)
      (idB.trans (author.trans idA.symm))
    rw [← userA, ← userB, same]

theorem lastShareForRecipient (latest : LatestBrief us rows brief) :
    ∃ share, rows.getLastShamirRecoveryShareCertificateForRecipient .current brief.userId us =
      .ok (some share) ∧ share.timestamp = brief.timestamp := by
  rcases topic.paired brief latest.stored latest.listed with impossible |
    ⟨share, isShare, forUs, author, date⟩
  · cases impossible
  have ofUser := share_user topic accepted isShare latest.stored author
  obtain ⟨found, read⟩ := @Selects.getMaybe_total _ rows _ .current _ _ _
    (selects_shamirShares brief.userId us)
  have isRead : rows.getLastShamirRecoveryShareCertificateForRecipient .current brief.userId us =
    .ok found := read
  rw [isRead]
  cases found with
  | none =>
    have late := (selects_shamirShares brief.userId us).getMaybe_none read isShare ⟨ofUser, forUs⟩
    cases late
  | some last =>
    obtain ⟨stored, ⟨lastUser, lastForUs⟩, -, newest⟩ :=
      (selects_shamirShares brief.userId us).getMaybe_some read
    have le : share.timestamp ≤ last.timestamp := newest share isShare ⟨ofUser, forUs⟩ rfl
    obtain ⟨-, setup, isSetup, listed, sameAuthor, sameDate⟩ := topic.sound.shares last stored
    have sameUser := share_user topic accepted stored isSetup sameAuthor
    have notLater := latest.latest setup isSetup (sameUser.symm.trans lastUser) listed
    refine ⟨last, rfl, le_antisymm ?_ ?_⟩
    · rw [sameDate]
      exact notLater
    · rw [← date]
      exact le

theorem usableShare_latest {device : LocalDevice} (isUs : device.userId = us)
    (latest : LatestBrief us rows brief)
    (fits : totalShares brief.perRecipientShares < u64Limit) :
    (DeletionStored rows brief → usableShare device brief.userId brief.timestamp rows =
      .error .shamirRecoveryDeleted) ∧
    (¬DeletionStored rows brief →
      reachableShares rows.revokedNow brief.perRecipientShares < brief.threshold →
      usableShare device brief.userId brief.timestamp rows = .error .shamirRecoveryUnusable) ∧
    (¬DeletionStored rows brief →
      brief.threshold ≤ reachableShares rows.revokedNow brief.perRecipientShares →
      ∃ share, usableShare device brief.userId brief.timestamp rows = .ok share) := by
  obtain ⟨deletions, isDeletions, -⟩ := @Selects.getMultiple_perm _ rows _ .current _ _ _
    selects_allShamirDeletions
  have isDeletions : rows.getShamirRecoveryDeletions .current = .ok deletions := isDeletions
  have any_iff : (deletions.any fun deletion => deletion.setupToDeleteUserId = brief.userId ∧
      deletion.setupToDeleteTimestamp = brief.timestamp) = true ↔ DeletionStored rows brief := by
    rw [List.any_eq_true]
    constructor
    · rintro ⟨deletion, member, deletes⟩
      exact ⟨deletion, (mem_foundDeletions isDeletions).mp member, of_decide_eq_true deletes⟩
    · rintro ⟨deletion, stored, deletes⟩
      exact ⟨deletion, (mem_foundDeletions isDeletions).mpr stored, decide_eq_true deletes⟩
  constructor
  · intro deleted
    unfold usableShare
    rw [isDeletions]
    simp only [Except.mapError, ok_bind, any_iff.mpr deleted, if_true]
    rfl
  · obtain ⟨share, lastShare, date⟩ := lastShareForRecipient topic accepted latest
    have read : ¬DeletionStored rows brief →
        usableShare device brief.userId brief.timestamp rows =
          if reachableShares rows.revokedNow brief.perRecipientShares < brief.threshold then
            .error .shamirRecoveryUnusable
          else .ok share := by
      intro notDeleted
      have noneDeletes := Bool.eq_false_iff.mpr (mt any_iff.mp notDeleted)
      have lastBrief := lastBriefForAuthor topic latest notDeleted
      unfold usableShare
      rw [isDeletions, lastBrief, isUs, lastShare]
      simp only [Except.mapError, ok_bind, noneDeletes, date, Option.filter_some,
        decide_true, if_true, Bool.false_eq_true, if_false, foldlM_countUsable fits]
      split
      · rfl
      · rfl
    constructor
    · intro notDeleted unusable
      rw [read notDeleted, if_pos unusable]
    · intro notDeleted usable
      rw [read notDeleted, if_neg (Nat.not_lt.mpr usable)]
      exact ⟨share, rfl⟩

end Topic
end Setups

section Views
variable {device : LocalDevice} {store : Store}

def OtherShamirRecoveryInfo.IsDeleted (info : OtherShamirRecoveryInfo) : Prop :=
  ∃ userId setup deletedOn deletedBy, info = .deleted userId setup deletedOn deletedBy

def OtherShamirRecoveryInfo.IsUnusable (info : OtherShamirRecoveryInfo) : Prop :=
  ∃ userId setup revoked, info = .setupButUnusable userId setup revoked

theorem infoOf_isDeleted {revoked : UserID → Bool} {last : ShamirRecoveryBriefCertificate ×
    Option ShamirRecoveryDeletionCertificate} :
    (infoOf revoked last).IsDeleted ↔ last.2.isSome = true := by
  obtain ⟨brief, deletion⟩ := last
  cases deletion with
  | some deletion => exact ⟨fun _ => rfl, fun _ => ⟨_, _, _, _, rfl⟩⟩
  | none =>
    constructor
    · rintro ⟨userId, setup, deletedOn, deletedBy, same⟩
      unfold infoOf at same
      dsimp only at same
      split at same
      · cases same
      · split at same
        · cases same
        · cases same
    · intro impossible
      cases impossible

theorem infoOf_isUnusable {revoked : UserID → Bool} {last : ShamirRecoveryBriefCertificate ×
    Option ShamirRecoveryDeletionCertificate} (whole : last.1.checkDataIntegrity = .ok ()) :
    (infoOf revoked last).IsUnusable ↔ last.2.isSome = false ∧
      reachableShares revoked last.1.perRecipientShares < last.1.threshold := by
  obtain ⟨brief, deletion⟩ := last
  have enough := ((checkDataIntegrity_iff brief).mp whole).2
  have split := totalShares_split revoked brief.perRecipientShares
  cases deletion with
  | some deletion =>
    constructor
    · rintro ⟨userId, setup, revoked, same⟩
      cases same
    · rintro ⟨impossible, -⟩
      cases impossible
  | none =>
    unfold OtherShamirRecoveryInfo.IsUnusable infoOf
    dsimp only
    by_cases none : revokedShares revoked brief.perRecipientShares = []
    · rw [none] at split
      have reachable : brief.threshold ≤
          reachableShares revoked brief.perRecipientShares := by
        simp only [totalShares, List.map_nil, List.sum_nil] at split enough
        omega
      simp [none, reachable]
    · by_cases usable : brief.threshold ≤ reachableShares revoked brief.perRecipientShares
      · simp [none, usable]
      · simp only [none, usable, if_false]
        constructor
        · exact fun _ => ⟨rfl, Nat.not_le.mp usable⟩
        · exact fun _ => ⟨_, _, _, rfl⟩

theorem isUpToDate_newForShamir {rows : Storage} {certif : ShamirRecoveryCertificate}
    (stored : .shamirRecovery certif ∈ rows) :
    rows.getLastTimestamps.isUpToDate (newForShamir certif.timestamp) = true := by
  obtain ⟨newest, isLast, le⟩ := (lastTimestamps_known rows).shamirRecovery.bounds
    certif.timestamp ⟨certif, stored, rfl⟩
  unfold PerTopicLastTimestamps.isUpToDate newForShamir
  rw [isLast]
  simp [PerTopicLastTimestamps.older, le]

theorem forReadWithRequirements_upToDate {α : Type} {needed : PerTopicLastTimestamps}
    {answers : List (Option Batch)} {callback : Store → α × Store} (trusted : Trusted store)
    (upToDate : store.storage.getLastTimestamps.isUpToDate needed = true) :
    ∃ seen, seen.storage = store.storage ∧
      (forReadWithRequirements device needed answers callback store).1 =
        .ok (callback seen).1 := by
  have last := getLastTimestamps_eq trusted
  have same := getLastTimestamps_storage store
  unfold forReadWithRequirements tryWithRequirements
  generalize store.getLastTimestamps = read at last same
  obtain ⟨known, seen⟩ := read
  dsimp only at last same ⊢
  rw [last, upToDate]
  exact ⟨seen, same, rfl⟩

section ShareView
variable {ShareData : Type}
  {decrypt : ShamirRecoveryShareCertificate → VerifyKey → Except LoadError ShareData}
  {userId : UserID} {createdOn : DateTime}

theorem readShareData_error {error : CertifGetShamirRecoveryShareDataError}
    (failed : usableShare device userId createdOn store.storage = .error error) :
    (readShareData device decrypt userId createdOn store).1 = .error error := by
  unfold readShareData
  rw [failed]

theorem getDeviceVerifyKeyAndUserId_current {deviceId : DeviceID} {date : DateTime} :
    store.getDeviceVerifyKeyAndUserId .current deviceId ≠ .error (.existButTooRecent date) := by
  intro failed
  unfold Store.getDeviceVerifyKeyAndUserId at failed
  split at failed
  · cases failed
  · cases read : store.storage.getDeviceCertificate .current deviceId with
    | ok certif =>
      rw [read] at failed
      cases failed
    | error error =>
      rw [read] at failed
      cases failed
      obtain ⟨limit, impossible, -⟩ :=
        getCertificate_tooRecent ((selects_device deviceId).getOne_error read)
      cases impossible

theorem readShareData_share {share : ShamirRecoveryShareCertificate}
    (found : usableShare device userId createdOn store.storage = .ok share) :
    (∃ data, (readShareData device decrypt userId createdOn store).1 = .ok data) ∨
    (∃ error, (readShareData device decrypt userId createdOn store).1 =
      .error (.corruptedShareData error)) ∨
    ∃ message, (readShareData device decrypt userId createdOn store).1 =
      .error (.internal message) := by
  unfold readShareData
  rw [found]
  dsimp only
  split
  · exact .inr (.inr ⟨_, rfl⟩)
  · rename_i tooRecent
    exact absurd tooRecent getDeviceVerifyKeyAndUserId_current
  · exact .inr (.inr ⟨_, rfl⟩)
  · rename_i key user seen _
    cases decrypted : decrypt share key with
    | ok data => exact .inl ⟨data, rfl⟩
    | error error => exact .inr (.inl ⟨error, rfl⟩)

end ShareView

/-- What a view says of our share of a setup. -/
structure ShareViewAgrees {ShareData : Type} (deleted unusable : Prop)
    (result : Except CertifGetShamirRecoveryShareDataError ShareData) : Prop where
  deleted : result = .error .shamirRecoveryDeleted ↔ deleted
  unusable : result = .error .shamirRecoveryUnusable ↔ unusable
  briefFound : result ≠ .error .shamirRecoveryBriefCertificateNotFound
  shareFound : result ≠ .error .shamirRecoveryShareCertificateNotFound
  noPanic : ∀ panic, result ≠ .error (.panicked panic)

theorem shareView_latest {ShareData : Type}
    {decrypt : ShamirRecoveryShareCertificate → VerifyKey → Except LoadError ShareData}
    {answers : List (Option Batch)} {brief : ShamirRecoveryBriefCertificate}
    (ready : ShamirReady device store) (latest : LatestBrief device.userId store.storage brief)
    (whole : brief.checkDataIntegrity = .ok ()) :
    ShareViewAgrees (DeletionStored store.storage brief)
      (¬DeletionStored store.storage brief ∧
        reachableShares store.storage.revokedNow brief.perRecipientShares < brief.threshold)
      (getShamirRecoveryShareData device decrypt answers brief.userId brief.timestamp store).1 := by
  obtain ⟨sound, topic⟩ := ready
  have fits : totalShares brief.perRecipientShares < u64Limit := by
    have bound := ((checkDataIntegrity_iff brief).mp whole).1
    unfold u64Limit
    omega
  have upToDate : store.storage.getLastTimestamps.isUpToDate (newForShamir brief.timestamp) =
      true := isUpToDate_newForShamir latest.stored
  obtain ⟨seen, same, run⟩ := @forReadWithRequirements_upToDate device store _ _ answers
    (readShareData device decrypt brief.userId brief.timestamp) sound.toTrusted upToDate
  have result : (getShamirRecoveryShareData device decrypt answers brief.userId brief.timestamp
      store).1 = (readShareData device decrypt brief.userId brief.timestamp seen).1 := by
    unfold getShamirRecoveryShareData
    split
    · rename_i done store' isRun
      rw [isRun] at run
      exact Except.ok.inj run
    · rename_i error store' isRun
      rw [isRun] at run
      cases run
  obtain ⟨deleted, unusable, usable⟩ :=
    usableShare_latest topic sound.history rfl latest fits
  rw [result]
  rw [← same] at deleted unusable usable
  by_cases isDeleted : DeletionStored seen.storage brief
  · rw [readShareData_error (deleted isDeleted), ← same]
    constructor
    · exact ⟨fun _ => isDeleted, fun _ => rfl⟩
    · simp [isDeleted]
    · simp
    · simp
    · simp
  · by_cases few : reachableShares seen.storage.revokedNow brief.perRecipientShares <
        brief.threshold
    · rw [readShareData_error (unusable isDeleted few), ← same]
      constructor
      · simp [isDeleted]
      · exact ⟨fun _ => ⟨isDeleted, few⟩, fun _ => rfl⟩
      · simp
      · simp
      · simp
    · obtain ⟨share, found⟩ := usable isDeleted (Nat.not_lt.mp few)
      rw [← same]
      rcases @readShareData_share device seen _ decrypt _ _ share found with
        ⟨data, isData⟩ | ⟨error, isError⟩ | ⟨message, isInternal⟩
      · rw [isData]
        constructor <;> simp [isDeleted, few]
      · rw [isError]
        constructor <;> simp [isDeleted, few]
      · rw [isInternal]
        constructor <;> simp [isDeleted, few]

theorem getSelfShamirRecovery_valid {rows : Storage} {brief : ShamirRecoveryBriefCertificate}
    (whole : brief.checkDataIntegrity = .ok ())
    (last : rows.getLastShamirRecoveryForAuthor .current device.userId = .ok (.valid brief)) :
    ∃ info, getSelfShamirRecovery device rows = .ok info := by
  obtain ⟨bound, enough⟩ := (checkDataIntegrity_iff brief).mp whole
  have fits : totalShares brief.perRecipientShares < u64Limit := by
    unfold u64Limit
    omega
  have run : getSelfShamirRecovery device rows = (arrange
      (counted rows.revokedNow brief.perRecipientShares) brief.threshold
      (SelfShamirRecoveryInfo.setupAllValid brief.setup)
      (.setupWithRevokedRecipients brief.setup)
      (.setupButUnusable brief.setup)).mapError .panicked := by
    unfold getSelfShamirRecovery
    rw [last]
    simp only [Except.mapError, ok_bind]
    have counts := @foldlM_isRevokedNow rows _ fits
    simp only [Except.mapError] at counts
    rw [counts]
    rfl
  rw [run, arrange_counted enough]
  exact ⟨_, rfl⟩

/-- Our own view neither panics nor fails. -/
theorem getSelfShamirRecovery_total {rows : Storage}
    (whole : ∀ certif ∈ rows, WholeBrief certif) :
    ∃ info, getSelfShamirRecovery device rows = .ok info := by
  obtain ⟨found, isFound⟩ := @Selects.getMaybe_total _ rows _ .current _ _ _
    (selects_userShamirBriefs device.userId)
  obtain ⟨deletion, isDeletion⟩ := @Selects.getMaybe_total _ rows _ .current _ _ _
    (selects_shamirDeletions device.userId)
  have last : rows.getLastShamirRecoveryForAuthor .current device.userId =
      rows.getLastShamirRecoveryForAuthor .current device.userId := rfl
  conv_rhs at last => unfold getLastShamirRecoveryForAuthor
  unfold getLastShamirRecoveryBriefCertificateForAuthor
    getLastShamirRecoveryDeletionCertificateForAuthor at last
  rw [isFound, isDeletion, ok_bind] at last
  cases found with
  | none =>
    unfold getSelfShamirRecovery
    rw [last]
    exact ⟨_, rfl⟩
  | some brief =>
    have stored := ((selects_userShamirBriefs device.userId).getMaybe_some isFound).1
    cases deletion with
    | none => exact getSelfShamirRecovery_valid (whole _ stored brief rfl) last
    | some deletion =>
      simp only [ok_bind] at last
      split at last
      · unfold getSelfShamirRecovery
        rw [last]
        exact ⟨_, rfl⟩
      · exact getSelfShamirRecovery_valid (whole _ stored brief rfl) last

theorem list_spec {rows : Storage} (whole : ∀ certif ∈ rows, WholeBrief certif)
    (order : HashOrder UserID) : ∃ lasts : List (ShamirRecoveryBriefCertificate ×
      Option ShamirRecoveryDeletionCertificate),
    (∀ last ∈ lasts, LatestBrief device.userId rows last.1 ∧
      (last.2.isSome = true ↔ DeletionStored rows last.1)) ∧
    (lasts.map fun last => last.1.userId).Nodup ∧
    (∀ brief, .shamirRecovery (.brief brief) ∈ rows → device.userId ∈ brief.recipients →
      ∃ last ∈ lasts, last.1.userId = brief.userId) ∧
    listShamirRecoveriesForOthers order device rows = .ok ((lasts.map
      (infoOf rows.revokedNow)).insertionSort fun a b => a.setup.createdOn ≤ b.setup.createdOn) := by
  obtain ⟨briefs, isBriefs, -⟩ := @Selects.getMultiple_perm _ rows _ .current _ _ _
    selects_shamirBriefs
  obtain ⟨deletions, isDeletions, -⟩ := @Selects.getMultiple_perm _ rows _ .current _ _ _
    selects_allShamirDeletions
  have isBriefs : rows.getShamirRecoveryBriefs .current = .ok briefs := isBriefs
  have isDeletions : rows.getShamirRecoveryDeletions .current = .ok deletions := isDeletions
  let perUser := deletions.foldl markDeleted (briefs.foldl (keepBrief device.userId) ∅)
  have entries : ∀ last ∈ valuesIn order perUser, LatestBrief device.userId rows last.1 ∧
      (last.2.isSome = true ↔ DeletionStored rows last.1) := by
    intro last member
    obtain ⟨user, found⟩ := mem_valuesIn.mp member
    exact (lastShamirs_entry isBriefs isDeletions found).2
  refine ⟨valuesIn order perUser, entries, ?_, ?_, ?_⟩
  · apply valuesIn_keys
    intro user last found
    exact (lastShamirs_entry isBriefs isDeletions found).1
  · intro brief stored listed
    obtain ⟨last, found⟩ := lastShamirs_complete isBriefs deletions stored listed
    exact ⟨last, mem_valuesIn.mpr ⟨_, found⟩,
      (lastShamirs_entry isBriefs isDeletions found).1⟩
  · obtain ⟨allRevoked, isRevoked, members⟩ := allRevokedRecipients_eq order rows
      (allRecipients (valuesIn order perUser))
    have infos : (valuesIn order perUser).mapM (otherInfo allRevoked) =
        .ok ((valuesIn order perUser).map (infoOf rows.revokedNow)) := by
      apply mapM_ok
      intro last member
      apply otherInfo_eq (whole _ (entries last member).1.stored last.1 rfl)
      intro id listed
      rw [members, mem_allRecipients]
      exact and_iff_right ⟨last, member, listed⟩
    unfold listShamirRecoveriesForOthers
    rw [isBriefs, isDeletions]
    simp only [Except.mapError, ok_bind]
    rw [isRevoked, ok_bind, infos]
    rfl

/-- An item of the list, and our share of the setup it tells of. -/
structure ItemAgrees (device : LocalDevice) (store : Store) (info : OtherShamirRecoveryInfo) :
    Prop where
  describes : ∃ brief, LatestBrief device.userId store.storage brief ∧
    info.userId = brief.userId ∧ info.setup = brief.setup ∧
    (info.IsDeleted ↔ DeletionStored store.storage brief)
  share : ∀ (ShareData : Type)
    (decrypt : ShamirRecoveryShareCertificate → VerifyKey → Except LoadError ShareData)
    (answers : List (Option Batch)), ShareViewAgrees info.IsDeleted info.IsUnusable
      (getShamirRecoveryShareData device decrypt answers info.userId info.setup.createdOn store).1

/-- The three views of the shamir recoveries on a store reached by batches. -/
theorem shamir_views_agree (reached : Reachable device store) (order : HashOrder UserID) :
    (∃ info, getSelfShamirRecovery device store.storage = .ok info) ∧
    ∃ infos, listShamirRecoveriesForOthers order device store.storage = .ok infos ∧
      (infos.map (·.userId)).Nodup ∧
      (∀ brief, .shamirRecovery (.brief brief) ∈ store.storage →
        device.userId ∈ brief.recipients → ∃ info ∈ infos, info.userId = brief.userId) ∧
      ∀ info ∈ infos, ItemAgrees device store info := by
  have ready := shamirReady_of_reachable reached
  have whole := whole_of_reachable reached
  refine ⟨getSelfShamirRecovery_total whole, ?_⟩
  obtain ⟨lasts, entries, nodup, complete, isList⟩ := @list_spec device store.storage whole order
  have perm := List.perm_insertionSort
    (fun a b : OtherShamirRecoveryInfo => a.setup.createdOn ≤ b.setup.createdOn)
    (lasts.map (infoOf store.storage.revokedNow))
  refine ⟨_, isList, ?_, ?_, ?_⟩
  · rw [(perm.map _).nodup_iff, List.map_map]
    have same : ((·.userId) ∘ infoOf store.storage.revokedNow) =
        fun last : ShamirRecoveryBriefCertificate × Option ShamirRecoveryDeletionCertificate =>
          last.1.userId := funext (infoOf_userId _)
    rw [same]
    exact nodup
  · intro brief stored listed
    obtain ⟨last, member, ofUser⟩ := complete brief stored listed
    refine ⟨infoOf store.storage.revokedNow last, ?_, ?_⟩
    · exact perm.mem_iff.mpr (List.mem_map_of_mem member)
    · rw [infoOf_userId]
      exact ofUser
  · intro info isInfo
    obtain ⟨last, member, rfl⟩ := List.mem_map.mp (perm.mem_iff.mp isInfo)
    obtain ⟨latest, deleted⟩ := entries last member
    have wholeLast := whole _ latest.stored last.1 rfl
    have isDeleted : (infoOf store.storage.revokedNow last).IsDeleted ↔
        DeletionStored store.storage last.1 := infoOf_isDeleted.trans deleted
    constructor
    · exact ⟨last.1, latest, infoOf_userId _ last, infoOf_setup _ last, isDeleted⟩
    · intro ShareData decrypt answers
      have agrees := @shareView_latest device store ShareData decrypt answers last.1 ready latest
        wholeLast
      rw [infoOf_userId, infoOf_setup]
      constructor
      · exact agrees.deleted.trans isDeleted.symm
      · rw [infoOf_isUnusable wholeLast, ← Bool.not_eq_true, deleted]
        exact agrees.unusable
      · exact agrees.briefFound
      · exact agrees.shareFound
      · exact agrees.noPanic

end Views

open Samples in
set_option maxRecDepth 10000 in
/-- Bob's last recovery in the list of Alice, who has one of her own. -/
theorem shamir_views_agree_for_alice : ∃ store, Reachable self store ∧
    store.storage = recoveries.arrivals ∧
    (∃ info, getSelfShamirRecovery self store.storage = .ok info) ∧
    ∃ infos, listShamirRecoveriesForOthers (.any UserID) self store.storage = .ok infos ∧
      (∃ info ∈ infos, info.userId = bob) ∧ ∀ info ∈ infos, ItemAgrees self store info := by
  obtain ⟨store, reached, stored⟩ := reachable_batch self recoveries ⟨_, _, rfl, rfl⟩
  obtain ⟨own, infos, isList, -, complete, agree⟩ := shamir_views_agree reached (.any UserID)
  refine ⟨store, reached, stored, own, infos, isList, ?_, agree⟩
  apply complete ⟨bob1, 6, bob, 1, [(alice, 1)]⟩
  · rw [stored]
    simp [recoveries, Batch.arrivals, Signed.certificates, brief]
  · exact List.mem_singleton_self alice

end ParsecCloud.Certif

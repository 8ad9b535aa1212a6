import ParsecCloud.Certif.Rules

/- The shamir recovery topic as our user sees it: the rules that each of its certificates meets
   over the rows stored before it, and what follows for the whole topic. -/
namespace ParsecCloud.Certif
open Rust Storage Journal

def Deletes (deletion : ShamirRecoveryDeletionCertificate) (brief : ShamirRecoveryBriefCertificate) :
    Prop :=
  deletion.setupToDeleteUserId = brief.userId ∧ deletion.setupToDeleteTimestamp = brief.timestamp

instance (deletion : ShamirRecoveryDeletionCertificate) (brief : ShamirRecoveryBriefCertificate) :
    Decidable (Deletes deletion brief) :=
  inferInstanceAs (Decidable (_ ∧ _))

section Rows
variable (rows : Storage)

def NotDeleted (brief : ShamirRecoveryBriefCertificate) : Prop :=
  ∀ deletion, .shamirRecovery (.deletion deletion) ∈ rows → ¬ Deletes deletion brief

def AfterShamirRecovery (date : DateTime) : Prop :=
  ∀ certif, .shamirRecovery certif ∈ rows → certif.timestamp < date

/-- The rules of the topic; the certificates of the other topics meet none. -/
inductive ShamirAccepted (us : UserID) : Certificate → Prop where
  | elsewhere (certif : Certificate) : (∀ shamir, certif ≠ .shamirRecovery shamir) →
      ShamirAccepted us certif
  | brief (certif : ShamirRecoveryBriefCertificate) :
      HasDevice rows certif.timestamp certif.userId certif.author →
      certif.userId = us ∨ us ∈ certif.recipients → certif.userId ∉ certif.recipients →
      (∀ other, .shamirRecovery (.brief other) ∈ rows → other.userId = certif.userId →
        ¬ NotDeleted rows other) →
      AfterShamirRecovery rows certif.timestamp →
      ShamirAccepted us (.shamirRecovery (.brief certif))
  | share (certif : ShamirRecoveryShareCertificate) (brief : ShamirRecoveryBriefCertificate) :
      HasDevice rows certif.timestamp certif.userId certif.author →
      .shamirRecovery (.brief brief) ∈ rows → brief.timestamp = certif.timestamp →
      brief.author = certif.author → certif.recipient = us → us ∈ brief.recipients →
      (∀ other, .shamirRecovery (.share other) ∈ rows → other.timestamp ≠ certif.timestamp) →
      (∀ other, .shamirRecovery other ∈ rows → other.timestamp ≤ certif.timestamp) →
      ShamirAccepted us (.shamirRecovery (.share certif))
  | deletion (certif : ShamirRecoveryDeletionCertificate)
      (brief : ShamirRecoveryBriefCertificate) :
      .shamirRecovery (.brief brief) ∈ rows → Deletes certif brief →
      certif.shareRecipients = brief.recipients.toFinset → NotDeleted rows brief →
      AfterShamirRecovery rows certif.timestamp →
      ShamirAccepted us (.shamirRecovery (.deletion certif))

def Storage.briefs : List ShamirRecoveryBriefCertificate := rows.filterMap isShamirRecoveryBrief

/-- The setups of a user at a date that were not deleted by then. -/
def Storage.liveBriefs (date : DateTime) (user : UserID) : List ShamirRecoveryBriefCertificate :=
  rows.briefs.filter fun brief => brief.userId = user ∧ brief.timestamp ≤ date ∧
    ∀ deletion ∈ rows.filterMap isShamirRecoveryDeletion, Deletes deletion brief →
      date < deletion.timestamp

/-- The shares of a setup that are for this recipient. -/
def Storage.sharesOf (brief : ShamirRecoveryBriefCertificate) (recipient : UserID) :
    List ShamirRecoveryShareCertificate :=
  (rows.filterMap isShamirRecoveryShare).filter fun share =>
    share.recipient = recipient ∧ share.author = brief.author ∧ share.timestamp = brief.timestamp

end Rows

theorem mem_briefs {rows : Storage} {brief : ShamirRecoveryBriefCertificate} :
    brief ∈ rows.briefs ↔ .shamirRecovery (.brief brief) ∈ rows := by
  unfold briefs
  rw [List.mem_filterMap]
  constructor
  · rintro ⟨certif, stored, found⟩
    rwa [← selects_shamirBriefs.wrap_expected certif brief found]
  · exact fun stored => ⟨_, stored, rfl⟩

section History
variable {us : UserID} {rows before : Storage}

theorem ShamirAccepted.brief_after {certif : ShamirRecoveryBriefCertificate}
    (accepted : ShamirAccepted before us (.shamirRecovery (.brief certif))) :
    AfterShamirRecovery before certif.timestamp := by
  cases accepted with
  | elsewhere _ other => exact absurd rfl (other _)
  | brief _ _ _ _ _ after => exact after

theorem ShamirAccepted.brief_related {certif : ShamirRecoveryBriefCertificate}
    (accepted : ShamirAccepted before us (.shamirRecovery (.brief certif))) :
    HasDevice before certif.timestamp certif.userId certif.author ∧
      (certif.userId = us ∨ us ∈ certif.recipients) ∧ certif.userId ∉ certif.recipients := by
  cases accepted with
  | elsewhere _ other => exact absurd rfl (other _)
  | brief _ ofUser related notSelf _ _ => exact ⟨ofUser, related, notSelf⟩

theorem ShamirAccepted.deleted_before {certif other : ShamirRecoveryBriefCertificate}
    (accepted : ShamirAccepted before us (.shamirRecovery (.brief certif)))
    (stored : .shamirRecovery (.brief other) ∈ before) (same : other.userId = certif.userId) :
    ∃ deletion, .shamirRecovery (.deletion deletion) ∈ before ∧ Deletes deletion other := by
  cases accepted with
  | elsewhere _ elsewhere => exact absurd rfl (elsewhere _)
  | brief _ _ _ _ deleted _ =>
    have deleted := deleted other stored same
    unfold NotDeleted at deleted
    push Not at deleted
    exact deleted

theorem ShamirAccepted.deletion_refers {certif : ShamirRecoveryDeletionCertificate}
    (accepted : ShamirAccepted before us (.shamirRecovery (.deletion certif))) :
    ∃ brief, .shamirRecovery (.brief brief) ∈ before ∧ Deletes certif brief ∧
      NotDeleted before brief := by
  cases accepted with
  | elsewhere _ other => exact absurd rfl (other _)
  | deletion _ brief stored deletes _ notDeleted _ => exact ⟨brief, stored, deletes, notDeleted⟩

theorem ShamirAccepted.deletion_after {certif : ShamirRecoveryDeletionCertificate}
    (accepted : ShamirAccepted before us (.shamirRecovery (.deletion certif))) :
    certif.setupToDeleteTimestamp < certif.timestamp := by
  cases accepted with
  | elsewhere _ other => exact absurd rfl (other _)
  | deletion _ brief stored deletes _ _ after =>
    rw [deletes.2]
    exact after _ stored

variable (history : Admitted (ShamirAccepted · us) rows)

include history

theorem briefs_ordered : rows.briefs.Pairwise fun a b => a.timestamp < b.timestamp := by
  unfold briefs
  rw [List.pairwise_filterMap]
  apply history.pairwise
  intro before entry accepted earlier member a found b found'
  cases selects_shamirBriefs.wrap_expected _ _ found
  cases selects_shamirBriefs.wrap_expected _ _ found'
  exact accepted.brief_after _ member

theorem briefs_unique {a b : ShamirRecoveryBriefCertificate}
    (first : .shamirRecovery (.brief a) ∈ rows) (second : .shamirRecovery (.brief b) ∈ rows)
    (same : a.timestamp = b.timestamp) : a = b := by
  have unique := history.unique (S := fun x y => ∃ a b, x = .shamirRecovery (.brief a) ∧
    y = .shamirRecovery (.brief b) ∧ a.timestamp = b.timestamp) ?_ ?_ _ first _ second
    ⟨a, b, rfl, rfl, same⟩
  · cases unique
    rfl
  · rintro x y ⟨a, b, first, second, same⟩
    exact ⟨b, a, second, first, same.symm⟩
  · rintro before _ _ accepted _ earlier ⟨a, b, rfl, rfl, same⟩
    exact absurd same (ne_of_lt (accepted.brief_after _ earlier))

theorem shamir_ordered : rows.Pairwise fun a b => ∀ x y, a = .shamirRecovery x →
    b = .shamirRecovery y → x.timestamp ≤ y.timestamp := by
  apply history.pairwise
  rintro before _ accepted _ earlier x y rfl rfl
  cases accepted with
  | elsewhere _ other => exact absurd rfl (other _)
  | brief _ _ _ _ _ after => exact le_of_lt (after x earlier)
  | share _ _ _ _ _ _ _ _ _ last => exact last x earlier
  | deletion _ _ _ _ _ _ after => exact le_of_lt (after x earlier)

theorem older_before {after : Storage} {certif other : ShamirRecoveryCertificate}
    (split : rows = before ++ .shamirRecovery certif :: after)
    (stored : .shamirRecovery other ∈ rows) (older : other.timestamp < certif.timestamp) :
    .shamirRecovery other ∈ before := by
  have ordered := shamir_ordered history
  rw [split] at stored ordered
  rcases List.mem_append.mp stored with earlier | later
  · exact earlier
  · rcases List.mem_cons.mp later with same | later
    · cases same
      exact absurd older (lt_irrefl _)
    · have newer := (List.pairwise_cons.mp (List.pairwise_append.mp ordered).2.1).1 _ later _ _
        rfl rfl
      exact absurd older (not_lt.mpr newer)

/-- Of two setups of a user, the older one was deleted before the newer one was made. -/
theorem older_deleted {a b : ShamirRecoveryBriefCertificate}
    (first : .shamirRecovery (.brief a) ∈ rows) (second : .shamirRecovery (.brief b) ∈ rows)
    (same : a.userId = b.userId) (older : a.timestamp < b.timestamp) :
    ∃ deletion, .shamirRecovery (.deletion deletion) ∈ rows ∧ Deletes deletion a ∧
      deletion.timestamp < b.timestamp := by
  obtain ⟨before, after, split⟩ := List.append_of_mem second
  have accepted := history before _ after split
  obtain ⟨deletion, stored, deletes⟩ :=
    accepted.deleted_before (older_before history split first older) same
  refine ⟨deletion, ?_, deletes, accepted.brief_after _ stored⟩
  rw [split]
  exact List.mem_append_left _ stored

theorem liveBriefs_length (date : DateTime) (user : UserID) :
    (rows.liveBriefs date user).length ≤ 1 := by
  have ordered : (rows.liveBriefs date user).Pairwise fun a b => a.timestamp < b.timestamp :=
    (briefs_ordered history).filter _
  have live : ∀ brief ∈ rows.liveBriefs date user, .shamirRecovery (.brief brief) ∈ rows ∧
      brief.userId = user ∧ brief.timestamp ≤ date ∧
      ∀ deletion, .shamirRecovery (.deletion deletion) ∈ rows → Deletes deletion brief →
        date < deletion.timestamp := by
    intro brief member
    obtain ⟨stored, kept⟩ := List.mem_filter.mp member
    obtain ⟨ofUser, early, notDeleted⟩ := of_decide_eq_true kept
    exact ⟨mem_briefs.mp stored, ofUser, early, fun deletion found deletes =>
      notDeleted deletion (List.mem_filterMap.mpr ⟨_, found, rfl⟩) deletes⟩
  generalize rows.liveBriefs date user = briefs at ordered live
  rcases briefs with _ | ⟨a, _ | ⟨b, rest⟩⟩
  · exact Nat.zero_le 1
  · exact le_refl 1
  · have older : a.timestamp < b.timestamp := (List.pairwise_cons.mp ordered).1 b (by simp)
    obtain ⟨first, ofUser, _, notDeleted⟩ := live a (by simp)
    obtain ⟨second, ofUser', early, _⟩ := live b (by simp)
    obtain ⟨deletion, stored, deletes, earlier⟩ :=
      older_deleted history first second (ofUser.trans ofUser'.symm) older
    have late := notDeleted deletion stored deletes
    exact absurd (lt_of_lt_of_le earlier early) (not_lt.mpr (le_of_lt late))

theorem shares_distinct :
    (rows.filterMap isShamirRecoveryShare).Pairwise fun a b => a.timestamp ≠ b.timestamp := by
  rw [List.pairwise_filterMap]
  apply history.pairwise
  intro before entry accepted earlier member a found b found'
  cases (selects_shamirShares us us).wrap_expected _ _ found
  cases (selects_shamirShares us us).wrap_expected _ _ found'
  cases accepted with
  | elsewhere _ other => exact absurd rfl (other _)
  | share _ _ _ _ _ _ _ _ new _ => exact new a member

theorem sharesOf_eq {brief : ShamirRecoveryBriefCertificate} {share : ShamirRecoveryShareCertificate}
    (stored : .shamirRecovery (.share share) ∈ rows) (forSelf : share.recipient = us)
    (author : share.author = brief.author) (timestamp : share.timestamp = brief.timestamp) :
    rows.sharesOf brief us = [share] := by
  have distinct : (rows.sharesOf brief us).Pairwise fun a b => a.timestamp ≠ b.timestamp :=
    (shares_distinct history).filter _
  have dated : ∀ other ∈ rows.sharesOf brief us, other.timestamp = brief.timestamp :=
    fun other member => (of_decide_eq_true (List.mem_filter.mp member).2).2.2
  have member : share ∈ rows.sharesOf brief us :=
    List.mem_filter.mpr ⟨List.mem_filterMap.mpr ⟨_, stored, rfl⟩,
      decide_eq_true ⟨forSelf, author, timestamp⟩⟩
  generalize rows.sharesOf brief us = shares at distinct dated member
  rcases shares with _ | ⟨a, _ | ⟨b, rest⟩⟩
  · cases member
  · rw [List.mem_singleton.mp member]
  · have other := (List.pairwise_cons.mp distinct).1 b (by simp)
    exact absurd ((dated a (by simp)).trans (dated b (by simp)).symm) other

end History

/-- The topic while its certificates are added: the share of the last setup may be expected. -/
structure ShamirTopic (us : UserID) (expected : Option ShamirRecoveryBriefCertificate)
    (rows : Storage) : Prop where
  history : Admitted (ShamirAccepted · us) rows
  paired : ∀ brief, .shamirRecovery (.brief brief) ∈ rows → us ∈ brief.recipients →
    expected = some brief ∨ ∃ share, .shamirRecovery (.share share) ∈ rows ∧
      share.recipient = us ∧ share.author = brief.author ∧ share.timestamp = brief.timestamp
  pending : ∀ brief, expected = some brief → .shamirRecovery (.brief brief) ∈ rows ∧
    ∀ other, .shamirRecovery other ∈ rows → other.timestamp ≤ brief.timestamp

section Steps
variable {us : UserID} {rows : Storage} {expected : Option ShamirRecoveryBriefCertificate}

theorem shamirTopic_nil : ShamirTopic us none [] where
  history := admitted_nil
  paired _ stored := by cases stored
  pending _ impossible := by cases impossible

/-- A certificate that is not a brief, once no share is expected. -/
theorem ShamirTopic.append_none {certif : Certificate} (topic : ShamirTopic us none rows)
    (accepted : ShamirAccepted rows us certif)
    (other : ∀ brief, certif ≠ .shamirRecovery (.brief brief)) :
    ShamirTopic us none (rows ++ [certif]) where
  history := admitted_concat.mpr ⟨topic.history, accepted⟩
  paired brief stored listed := by
    rcases List.mem_append.mp stored with stored | last
    · rcases topic.paired brief stored listed with impossible | ⟨share, member, paired⟩
      · cases impossible
      · exact .inr ⟨share, List.mem_append_left _ member, paired⟩
    · exact absurd (List.mem_singleton.mp last).symm (other brief)
  pending _ impossible := by cases impossible

theorem ShamirTopic.append_brief {brief : ShamirRecoveryBriefCertificate}
    (topic : ShamirTopic us none rows)
    (accepted : ShamirAccepted rows us (.shamirRecovery (.brief brief))) :
    ShamirTopic us (if us ∈ brief.recipients then some brief else none)
      (rows ++ [.shamirRecovery (.brief brief)]) where
  history := admitted_concat.mpr ⟨topic.history, accepted⟩
  paired known stored listed := by
    rcases List.mem_append.mp stored with stored | last
    · rcases topic.paired known stored listed with impossible | ⟨share, member, paired⟩
      · cases impossible
      · exact .inr ⟨share, List.mem_append_left _ member, paired⟩
    · cases List.mem_singleton.mp last
      exact .inl (if_pos listed)
  pending known found := by
    split at found
    · cases found
      refine ⟨by simp, fun other stored => ?_⟩
      rcases List.mem_append.mp stored with stored | last
      · exact le_of_lt (accepted.brief_after other stored)
      · cases List.mem_singleton.mp last
        exact le_refl _
    · cases found

theorem ShamirTopic.append_share {brief : ShamirRecoveryBriefCertificate}
    {share : ShamirRecoveryShareCertificate} (topic : ShamirTopic us (some brief) rows)
    (accepted : ShamirAccepted rows us (.shamirRecovery (.share share))) :
    ShamirTopic us none (rows ++ [.shamirRecovery (.share share)]) := by
  obtain ⟨expected, newest⟩ := topic.pending brief rfl
  obtain ⟨forSelf, author, timestamp⟩ : share.recipient = us ∧ share.author = brief.author ∧
      share.timestamp = brief.timestamp := by
    cases accepted with
    | elsewhere _ other => exact absurd rfl (other _)
    | share _ known _ stored sameDate sameAuthor forSelf _ _ last =>
      have late : brief.timestamp ≤ share.timestamp := last _ expected
      have early : known.timestamp ≤ brief.timestamp := newest _ stored
      have same := briefs_unique topic.history stored expected
        (le_antisymm early (by rwa [sameDate]))
      subst same
      exact ⟨forSelf, sameAuthor.symm, sameDate.symm⟩
  refine ⟨admitted_concat.mpr ⟨topic.history, accepted⟩, ?_, fun _ impossible => by cases impossible⟩
  intro known stored listed
  rcases List.mem_append.mp stored with stored | last
  · rcases topic.paired known stored listed with same | ⟨other, member, paired⟩
    · cases same
      exact .inr ⟨share, by simp, forSelf, author, timestamp⟩
    · exact .inr ⟨other, List.mem_append_left _ member, paired⟩
  · cases List.mem_singleton.mp last

end Steps

/-- What holds of the whole topic once a batch is added. -/
structure ShamirSound (us : UserID) (rows : Storage) : Prop where
  oneLive : ∀ date user, (rows.liveBriefs date user).length ≤ 1
  deletions : ∀ before deletion after,
    rows = before ++ .shamirRecovery (.deletion deletion) :: after →
    ∃ brief, .shamirRecovery (.brief brief) ∈ before ∧ Deletes deletion brief ∧
      brief.timestamp < deletion.timestamp ∧
      deletion.shareRecipients = brief.recipients.toFinset ∧ NotDeleted before brief
  related : ∀ brief, .shamirRecovery (.brief brief) ∈ rows →
    HasDevice rows brief.timestamp us brief.author ∨ us ∈ brief.recipients
  shared : ∀ brief, .shamirRecovery (.brief brief) ∈ rows → us ∈ brief.recipients →
    ∃ share, rows.sharesOf brief us = [share]
  shares : ∀ share, .shamirRecovery (.share share) ∈ rows → share.recipient = us ∧
    ∃ brief, .shamirRecovery (.brief brief) ∈ rows ∧ us ∈ brief.recipients ∧
      share.author = brief.author ∧ share.timestamp = brief.timestamp

theorem ShamirTopic.sound {us : UserID} {rows : Storage} (topic : ShamirTopic us none rows) :
    ShamirSound us rows where
  oneLive := liveBriefs_length topic.history
  deletions before deletion after split := by
    cases topic.history before _ after split with
    | elsewhere _ other => exact absurd rfl (other _)
    | deletion _ brief stored deletes recipients notDeleted after =>
      exact ⟨brief, stored, deletes, after _ stored, recipients, notDeleted⟩
  related brief stored := by
    obtain ⟨before, within, accepted⟩ := topic.history.mem stored
    obtain ⟨⟨device, known, ofUser⟩, related, _⟩ := accepted.brief_related
    rcases related with own | listed
    · left
      rw [← own]
      exact ⟨device, within known, ofUser⟩
    · exact .inr listed
  shared brief stored listed := by
    rcases topic.paired brief stored listed with impossible | ⟨share, member, forSelf, author, date⟩
    · cases impossible
    · exact ⟨share, sharesOf_eq topic.history member forSelf author date⟩
  shares share stored := by
    obtain ⟨before, within, accepted⟩ := topic.history.mem stored
    cases accepted with
    | elsewhere _ other => exact absurd rfl (other _)
    | share _ brief _ known date author forSelf listed _ _ =>
      exact ⟨forSelf, brief, within known, listed, author.symm, date.symm⟩

end ParsecCloud.Certif

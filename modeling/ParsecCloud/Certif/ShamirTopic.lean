import ParsecCloud.Certif.Assertions
import ParsecCloud.Certif.Authors
import ParsecCloud.Certif.ShamirRules

/- The shamir recovery topic over whole runs of add_certificates_batch: its checks enforce the
   rules of the topic, its automaton pairs each setup with our share, and no assertion fails. -/
namespace ParsecCloud.Certif
open Rust HashMap Storage Journal Runs Samples

variable {device : LocalDevice} {store store' : Store} {us : UserID}

section LastSetup
variable {rows : Storage} {date : DateTime} {user : UserID}

theorem AfterShamirRecovery.covers (after : AfterShamirRecovery rows date)
    {certif : ShamirRecoveryCertificate} (stored : .shamirRecovery certif ∈ rows) :
    (UpTo.timestamp date).covers (Certificate.shamirRecovery certif).timestamp = true :=
  covers_timestamp.mpr (le_of_lt (after certif stored))

variable (history : Admitted (ShamirAccepted · us) rows) (after : AfterShamirRecovery rows date)

include history after

/-- When the last setup of a user is not valid, none of its setups is. -/
theorem getLastShamirRecoveryForAuthor_notValid {found : LastShamirRecovery}
    (read : rows.getLastShamirRecoveryForAuthor (.timestamp date) user = .ok found)
    (notValid : ∀ brief, found ≠ .valid brief) {brief : ShamirRecoveryBriefCertificate}
    (stored : .shamirRecovery (.brief brief) ∈ rows) (ofUser : brief.userId = user) :
    ¬ NotDeleted rows brief := by
  unfold getLastShamirRecoveryForAuthor at read
  obtain ⟨last, lastBrief, read⟩ := bind_eq_ok.mp read
  cases last with
  | none =>
    have late := (selects_userShamirBriefs user).getMaybe_none lastBrief stored ofUser
    rw [after.covers stored] at late
    cases late
  | some last =>
    obtain ⟨member, ofUser', _, newest⟩ := (selects_userShamirBriefs user).getMaybe_some lastBrief
    obtain ⟨deletion, lastDeletion, read⟩ := bind_eq_ok.mp read
    cases deletion with
    | none =>
      cases read
      exact absurd rfl (notValid _)
    | some deletion =>
      dsimp only at read
      split at read
      · rename_i refers
        obtain ⟨known, ofUser'', _⟩ := (selects_shamirDeletions user).getMaybe_some lastDeletion
        have early := newest brief stored ofUser (after.covers stored)
        rcases lt_or_eq_of_le early with older | same
        · obtain ⟨other, earlier, deletes, _⟩ :=
            older_deleted history stored member (ofUser.trans ofUser'.symm) older
          exact fun notDeleted => notDeleted other earlier deletes
        · have same := briefs_unique history stored member same
          subst same
          exact fun notDeleted => notDeleted deletion known ⟨ofUser''.trans ofUser.symm, refers⟩
      · cases read
        exact absurd rfl (notValid _)

theorem getLastShamirRecoveryForAuthor_valid {brief : ShamirRecoveryBriefCertificate}
    (read : rows.getLastShamirRecoveryForAuthor (.timestamp date) user = .ok (.valid brief)) :
    .shamirRecovery (.brief brief) ∈ rows ∧ brief.userId = user ∧ NotDeleted rows brief := by
  unfold getLastShamirRecoveryForAuthor at read
  obtain ⟨last, lastBrief, read⟩ := bind_eq_ok.mp read
  cases last with
  | none => cases read
  | some last =>
    obtain ⟨member, ofUser, _, newest⟩ := (selects_userShamirBriefs user).getMaybe_some lastBrief
    obtain ⟨deletion, lastDeletion, read⟩ := bind_eq_ok.mp read
    cases deletion with
    | none =>
      cases read
      refine ⟨member, ofUser, fun deletion stored deletes => ?_⟩
      have late := (selects_shamirDeletions user).getMaybe_none lastDeletion stored
        (deletes.1.trans ofUser)
      rw [after.covers stored] at late
      cases late
    | some deletion =>
      dsimp only at read
      split at read
      · cases read
      · rename_i refers
        cases read
        refine ⟨member, ofUser, fun other stored deletes => ?_⟩
        -- the last deletion would then be about an older setup, which was deleted before
        obtain ⟨known, ofUser', _, newestDeletion⟩ :=
          (selects_shamirDeletions user).getMaybe_some lastDeletion
        obtain ⟨before, later, split⟩ := List.append_of_mem known
        obtain ⟨setup, within, refersTo, notDeleted⟩ :=
          (history before _ later split).deletion_refers
        have setup_stored : .shamirRecovery (.brief setup) ∈ rows := by
          rw [split]
          exact List.mem_append_left _ within
        have setup_user : setup.userId = user := refersTo.1.symm.trans ofUser'
        have older : setup.timestamp < brief.timestamp := by
          have le := newest setup setup_stored setup_user (after.covers setup_stored)
          exact lt_of_le_of_ne le fun same => refers (refersTo.2.trans same)
        obtain ⟨again, stored', deletes', early⟩ :=
          older_deleted history setup_stored member (setup_user.trans ofUser.symm) older
        have late : brief.timestamp < other.timestamp := by
          obtain ⟨before', _, accepted⟩ := history.mem stored
          rw [← deletes.2]
          exact accepted.deletion_after
        have upTo : other.timestamp ≤ deletion.timestamp :=
          newestDeletion other stored (deletes.1.trans ofUser) (after.covers stored)
        exact notDeleted again (older_before history split stored'
          (lt_of_lt_of_le (lt_trans early late) upTo)) deletes'

end LastSetup

theorem setupRecipients_ok {found : LastShamirRecovery} {recipients : Finset UserID}
    {cooked : ShamirRecoveryDeletionCertificate} {hint : Hint}
    (setup : setupRecipients found cooked hint = .ok recipients) :
    ∃ brief, found = .valid brief ∧ brief.timestamp = cooked.setupToDeleteTimestamp ∧
      recipients = brief.recipients.toFinset := by
  unfold setupRecipients at setup
  split at setup
  · cases setup
  · split at setup
    · rename_i date
      cases setup
      exact ⟨_, rfl, date, rfl⟩
    · cases setup
  · split at setup <;> cases setup

section Checks
variable (sound : Authentic store)
variable (history : Admitted (ShamirAccepted · device.userId) store.storage)

include sound history

theorem checkShamirRecoveryBrief_rule {cooked : ShamirRecoveryBriefCertificate} {author : UserID}
    (signed : HasDevice store.storage cooked.timestamp author cooked.author)
    (checked : checkShamirRecoveryBriefCertificateConsistency device cooked author store
      = .ok store') :
    ShamirAccepted store.storage device.userId (.shamirRecovery (.brief cooked)) := by
  unfold checkShamirRecoveryBriefCertificateConsistency at checked
  obtain ⟨last, seen, read, known, same, _⟩ := getLastTimestamps_ok sound.toTrusted
  rw [read] at checked
  dsimp only at checked
  rw [same] at checked
  obtain ⟨_, newest, checked⟩ := bind_eq_ok.mp checked
  obtain ⟨_, aboutSelf, checked⟩ := bind_eq_ok.mp checked
  obtain ⟨_, notRecipient, checked⟩ := bind_eq_ok.mp checked
  obtain ⟨_, related, checked⟩ := bind_eq_ok.mp checked
  obtain ⟨found, lastSetup, checked⟩ := bind_eq_ok.mp checked
  obtain ⟨_, notSetup, checked⟩ := bind_eq_ok.mp checked
  have aboutSelf : cooked.userId = author := by simpa using refuseIf_ok.mp aboutSelf
  subst aboutSelf
  have after : AfterShamirRecovery store.storage cooked.timestamp := fun other stored =>
    known.shamirRecovery.lt (checkNewest_ok newest) _ ⟨other, stored, rfl⟩
  have notValid : ∀ brief, found ≠ .valid brief := by
    rintro brief rfl
    cases notSetup
  apply ShamirAccepted.brief cooked signed
  · have related := refuseIf_ok.mp related
    by_cases own : cooked.userId = device.userId
    · exact .inl own
    · right
      simpa [own] using related
  · simpa using refuseIf_ok.mp notRecipient
  · intro other stored ofUser
    exact getLastShamirRecoveryForAuthor_notValid history after (internal_ok.mp lastSetup) notValid
      stored ofUser
  · exact after

theorem checkShamirRecoveryShare_rule {cooked : ShamirRecoveryShareCertificate} {author : UserID}
    (signed : HasDevice store.storage cooked.timestamp author cooked.author)
    (checked : checkShamirRecoveryShareCertificateConsistency device cooked author store
      = .ok store') :
    ShamirAccepted store.storage device.userId (.shamirRecovery (.share cooked)) := by
  unfold checkShamirRecoveryShareCertificateConsistency at checked
  obtain ⟨last, seen, read, known, same, _⟩ := getLastTimestamps_ok sound.toTrusted
  rw [read] at checked
  dsimp only at checked
  rw [same] at checked
  obtain ⟨_, newest, checked⟩ := bind_eq_ok.mp checked
  obtain ⟨brief, lastBrief, checked⟩ := bind_eq_ok.mp checked
  obtain ⟨_, ofBrief, checked⟩ := bind_eq_ok.mp checked
  obtain ⟨_, forUs, checked⟩ := bind_eq_ok.mp checked
  obtain ⟨other, lastShare, checked⟩ := bind_eq_ok.mp checked
  obtain ⟨_, notShared, checked⟩ := bind_eq_ok.mp checked
  obtain ⟨_, aboutSelf, checked⟩ := bind_eq_ok.mp checked
  have aboutSelf : cooked.userId = author := by simpa using refuseIf_ok.mp aboutSelf
  subst aboutSelf
  have forUs : cooked.recipient = device.userId := by simpa using refuseIf_ok.mp forUs
  have newest : ∀ date, last.shamirRecovery = some date → date ≤ cooked.timestamp := by
    intro date found
    rw [found] at newest
    exact not_lt.mp (of_decide_eq_false (refuseIf_ok.mp newest))
  have upTo : ∀ other, .shamirRecovery other ∈ store.storage →
      other.timestamp ≤ cooked.timestamp := fun other stored =>
    known.shamirRecovery.le newest _ ⟨other, stored, rfl⟩
  cases brief with
  | none => cases ofBrief
  | some brief =>
    obtain ⟨stored, _⟩ := selects_shamirBriefs.getMaybe_some (internal_ok.mp lastBrief)
    have ofBrief := refuseIf_ok.mp ofBrief
    simp only [Bool.not_eq_eq_eq_not, Bool.not_false, Bool.and_eq_true, decide_eq_true_eq]
      at ofBrief
    obtain ⟨⟨date, sameAuthor⟩, listed⟩ := ofBrief
    -- the shares of one timestamp are those of one brief, hence of one author
    have author_eq : ∀ share, .shamirRecovery (.share share) ∈ store.storage →
        share.timestamp = cooked.timestamp → share.author = cooked.author ∧
          share.userId = cooked.userId ∧ share.recipient = cooked.recipient := by
      intro share member sameDate
      obtain ⟨before, within, accepted⟩ := history.mem member
      cases accepted with
      | elsewhere _ elsewhere => exact absurd rfl (elsewhere _)
      | share _ setup ofUser known briefDate briefAuthor forSelf _ _ _ =>
        have equal := briefs_unique history (within known) stored
          (briefDate.trans (sameDate.trans date.symm))
        subst equal
        have byAuthor := briefAuthor.symm.trans sameAuthor
        refine ⟨byAuthor, ?_, forSelf.trans forUs.symm⟩
        obtain ⟨a, storedA, idA, userA, _⟩ := ofUser
        obtain ⟨b, storedB, idB, userB, _⟩ := signed
        have one := devices_unique sound.history a b (within storedA) storedB
          (idA.trans (byAuthor.trans idB.symm))
        rw [← userA, ← userB, one]
    apply ShamirAccepted.share cooked brief signed stored date sameAuthor forUs (forUs ▸ listed)
    · intro share member sameDate
      obtain ⟨byAuthor, ofUser, toRecipient⟩ := author_eq share member sameDate
      have covered : (UpTo.timestamp cooked.timestamp).covers share.timestamp = true :=
        covers_timestamp.mpr (le_of_eq sameDate)
      cases other with
      | none =>
        have late := (selects_shamirShares _ _).getMaybe_none (internal_ok.mp lastShare) member
          ⟨ofUser, toRecipient⟩
        exact absurd covered (by rw [Bool.not_eq_true]; exact late)
      | some other =>
        obtain ⟨found, _, early, newest⟩ :=
          (selects_shamirShares _ _).getMaybe_some (internal_ok.mp lastShare)
        have late : share.timestamp ≤ other.timestamp :=
          newest share member ⟨ofUser, toRecipient⟩ covered
        have equal : other.timestamp = cooked.timestamp :=
          le_antisymm (covers_timestamp.mp early) (sameDate ▸ late)
        have refused := refuseIf_ok.mp notShared
        simp [equal, (author_eq other found equal).1] at refused
    · exact upTo

theorem checkShamirRecoveryDeletion_rule {cooked : ShamirRecoveryDeletionCertificate}
    {author : UserID}
    (checked : checkShamirRecoveryDeletionCertificateConsistency device cooked author store
      = .ok store') :
    ShamirAccepted store.storage device.userId (.shamirRecovery (.deletion cooked)) := by
  unfold checkShamirRecoveryDeletionCertificateConsistency at checked
  obtain ⟨last, seen, read, known, same, _⟩ := getLastTimestamps_ok sound.toTrusted
  rw [read] at checked
  dsimp only at checked
  rw [same] at checked
  obtain ⟨_, newest, checked⟩ := bind_eq_ok.mp checked
  obtain ⟨_, aboutSelf, checked⟩ := bind_eq_ok.mp checked
  obtain ⟨found, lastSetup, checked⟩ := bind_eq_ok.mp checked
  obtain ⟨recipients, setup, checked⟩ := bind_eq_ok.mp checked
  obtain ⟨_, matching, checked⟩ := bind_eq_ok.mp checked
  have aboutSelf : cooked.setupToDeleteUserId = author := by simpa using refuseIf_ok.mp aboutSelf
  have after : AfterShamirRecovery store.storage cooked.timestamp := fun other stored =>
    known.shamirRecovery.lt (checkNewest_ok newest) _ ⟨other, stored, rfl⟩
  have matching : cooked.shareRecipients = recipients := by simpa using refuseIf_ok.mp matching
  obtain ⟨brief, rfl, date, rfl⟩ := setupRecipients_ok setup
  obtain ⟨stored, ofUser, notDeleted⟩ :=
    getLastShamirRecoveryForAuthor_valid history after (internal_ok.mp lastSetup)
  exact .deletion cooked brief stored ⟨aboutSelf.trans ofUser.symm, date.symm⟩ matching notDeleted
    after

theorem validateShamirRecoveryCertificate_rule {signed : Signed ShamirRecoveryCertificate}
    {cooked : ShamirRecoveryCertificate}
    (checked : validateShamirRecoveryCertificate device signed store = .ok (cooked, store')) :
    ShamirAccepted store.storage device.userId (.shamirRecovery cooked) := by
  unfold validateShamirRecoveryCertificate at checked
  obtain ⟨⟨content, key⟩, load, checked⟩ := bind_eq_ok.mp checked
  cases content with
  | brief certif =>
    obtain ⟨⟨signer, seen⟩, signature, checked⟩ := bind_eq_ok.mp checked
    obtain ⟨last, consistent, checked⟩ := bind_eq_ok.mp checked
    cases checked
    obtain ⟨same, sound', signed⟩ := verifySignature_sound sound signature
    rw [← same] at history ⊢
    exact checkShamirRecoveryBrief_rule sound' history signed consistent
  | share certif =>
    obtain ⟨⟨signer, seen⟩, signature, checked⟩ := bind_eq_ok.mp checked
    obtain ⟨last, consistent, checked⟩ := bind_eq_ok.mp checked
    cases checked
    obtain ⟨same, sound', signed⟩ := verifySignature_sound sound signature
    rw [← same] at history ⊢
    exact checkShamirRecoveryShare_rule sound' history signed consistent
  | deletion certif =>
    obtain ⟨⟨signer, seen⟩, signature, checked⟩ := bind_eq_ok.mp checked
    obtain ⟨last, consistent, checked⟩ := bind_eq_ok.mp checked
    cases checked
    obtain ⟨same, sound', _⟩ := verifySignature_sound sound signature
    rw [← same] at history ⊢
    exact checkShamirRecoveryDeletion_rule sound' history consistent

/-- A deletion that gets to its assertion is about a setup that concerns us. -/
theorem checkShamirRecoveryDeletion_noPanic {cooked : ShamirRecoveryDeletionCertificate}
    {author : UserID} :
    NoPanic (checkShamirRecoveryDeletionCertificateConsistency device cooked author store) := by
  unfold checkShamirRecoveryDeletionCertificateConsistency
  obtain ⟨last, seen, read, known, same, _⟩ := getLastTimestamps_ok sound.toTrusted
  rw [read]
  dsimp only
  rw [same]
  refine .bind (checkNewest_noPanic _) fun _ newest => .bind (.refuseIf _ _) fun _ aboutSelf => ?_
  refine .bind (.internal _) fun found lastSetup => .bind ?_ fun recipients setup => ?_
  · unfold setupRecipients
    split
    · exact .invalid _
    · split
      · exact .ok _
      · exact .invalid _
    · split <;> exact .invalid _
  refine .bind (.refuseIf _ _) fun _ matching => .bind ?_ fun _ _ => ?_
  · have after : AfterShamirRecovery store.storage cooked.timestamp := fun other stored =>
      known.shamirRecovery.lt (checkNewest_ok newest) _ ⟨other, stored, rfl⟩
    have aboutSelf : cooked.setupToDeleteUserId = author := by
      simpa using refuseIf_ok.mp aboutSelf
    have matching : cooked.shareRecipients = recipients := by simpa using refuseIf_ok.mp matching
    obtain ⟨brief, rfl, date, rfl⟩ := setupRecipients_ok setup
    obtain ⟨stored, ofUser, _⟩ :=
      getLastShamirRecoveryForAuthor_valid history after (internal_ok.mp lastSetup)
    obtain ⟨before, _, accepted⟩ := history.mem stored
    obtain ⟨_, related, _⟩ := accepted.brief_related
    have concerned : cooked.setupToDeleteUserId = device.userId ∨
        device.userId ∈ cooked.shareRecipients := by
      rw [matching, List.mem_toFinset, aboutSelf, ← ofUser]
      exact related
    unfold assertRelated
    rw [if_pos (decide_eq_true concerned)]
    exact .ok ()
  · exact .bind checkAuthorNotRevokedAndProfile_noPanic fun _ _ => .pure _

theorem validateShamirRecoveryCertificate_noPanic (signed : Signed ShamirRecoveryCertificate) :
    NoPanic (validateShamirRecoveryCertificate device signed store) := by
  refine .bind (.loaded _) fun loaded _ => ?_
  obtain ⟨content, key⟩ := loaded
  cases content with
  | brief certif =>
    refine .bind verifySignature_noPanic fun _ _ => .bind ?_ fun _ _ => .pure _
    refine .bind (checkNewest_noPanic _) fun _ _ => .bind (.refuseIf _ _) fun _ _ =>
      .bind (.refuseIf _ _) fun _ _ => .bind (.refuseIf _ _) fun _ _ =>
      .bind (.internal _) fun found _ => .bind ?_ fun _ _ =>
      .bind checkAuthorNotRevokedAndProfile_noPanic fun _ _ => .bind ?_ fun _ _ => .pure _
    · cases found <;> first | exact .ok () | exact .invalid _
    · generalize certif.recipients = recipients
      induction recipients with
      | nil => exact .pure _
      | cons recipient rest ih =>
        exact .bind (.bind checkUserExists_noPanic fun _ _ => checkUserNotRevoked_noPanic)
          fun _ _ => ih
  | share certif =>
    refine .bind verifySignature_noPanic fun _ _ => .bind ?_ fun _ _ => .pure _
    refine .bind ?_ fun _ _ => .bind (.internal _) fun brief _ => .bind ?_ fun _ _ =>
      .bind (.refuseIf _ _) fun _ _ => .bind (.internal _) fun other _ => .bind ?_ fun _ _ =>
      .bind (.refuseIf _ _) fun _ _ => .bind checkAuthorNotRevokedAndProfile_noPanic
        fun _ _ => .pure _
    · unfold checkShareTimestamp
      split
      · exact .refuseIf _ _
      · exact .ok ()
    · cases brief with
      | none => exact .invalid _
      | some brief => exact .refuseIf _ _
    · cases other with
      | none => exact .ok ()
      | some other => exact .refuseIf _ _
  | deletion certif =>
    refine .bind verifySignature_noPanic fun signed signature => .bind ?_ fun _ _ => .pure _
    obtain ⟨same, sound', _⟩ := verifySignature_sound sound signature
    rw [← same] at history
    exact checkShamirRecoveryDeletion_noPanic sound' history

end Checks

/-- What add_certificates_batch keeps while it goes through the topic. -/
def ShamirState (device : LocalDevice) (state : NextShamirCertifExpect × Store) : Prop :=
  Authentic state.2 ∧ ShamirTopic device.userId state.1 state.2.storage

section Adding
variable {state state' : NextShamirCertifExpect × Store}

theorem addShamirRecovery_noPanic (ready : ShamirState device state)
    (signed : Signed ShamirRecoveryCertificate) :
    NoPanic (addShamirRecovery device state signed) := by
  obtain ⟨sound, topic⟩ := ready
  refine .bind (validateShamirRecoveryCertificate_noPanic sound topic.history signed)
    fun validated checked => .bind ?_ fun _ _ => .pure _
  obtain ⟨cooked, seen⟩ := validated
  have accepted := validateShamirRecoveryCertificate_rule sound topic.history checked
  obtain ⟨pending, store⟩ := state
  cases pending with
  | none =>
    cases cooked with
    | brief brief =>
      unfold expectNext
      dsimp only
      split <;> exact .ok _
    | share share => exact .ok _
    | deletion deletion => exact .ok _
  | some brief =>
    cases cooked with
    | brief other => exact .invalid _
    | deletion deletion => exact .invalid _
    | share share =>
      -- the assertion is what was checked of the share
      have forUs : share.recipient = device.userId := by
        cases accepted with
        | elsewhere _ other => exact absurd rfl (other _)
        | share _ _ _ _ _ _ forUs _ _ _ => exact forUs
      unfold expectNext
      dsimp only
      rw [if_pos forUs]
      exact .ok _

theorem addShamirRecovery_state (ready : ShamirState device state)
    {signed : Signed ShamirRecoveryCertificate}
    (run : addShamirRecovery device state signed = .ok state') : ShamirState device state' := by
  obtain ⟨sound, topic⟩ := ready
  refine ⟨(addShamirRecovery_adds run sound).1, ?_⟩
  obtain ⟨⟨cooked, seen⟩, checked, run⟩ := bind_eq_ok.mp run
  obtain ⟨expected, next, run⟩ := bind_eq_ok.mp run
  cases run
  have accepted := validateShamirRecoveryCertificate_rule sound topic.history checked
  have same := (validateShamirRecoveryCertificate_seen _ checked).2.storage
  show ShamirTopic device.userId expected (seen.storage ++ [.shamirRecovery cooked])
  rw [same]
  obtain ⟨pending, store⟩ := state
  cases pending with
  | none =>
    cases cooked with
    | brief brief =>
      have expected_eq : expected = if device.userId ∈ brief.recipients then some brief else none := by
        unfold expectNext at next
        dsimp only at next
        split at next
        · rename_i listed
          cases next
          exact (if_pos listed).symm
        · rename_i notListed
          cases next
          exact (if_neg notListed).symm
      rw [expected_eq]
      exact topic.append_brief accepted
    | share share =>
      cases next
      exact topic.append_none accepted fun _ impossible => by cases impossible
    | deletion deletion =>
      cases next
      exact topic.append_none accepted fun _ impossible => by cases impossible
  | some brief =>
    cases cooked with
    | brief other => cases next
    | deletion deletion => cases next
    | share share =>
      have expected_eq : expected = none := by
        unfold expectNext at next
        dsimp only at next
        split at next
        · cases next
          rfl
        · cases next
      rw [expected_eq]
      exact topic.append_share accepted

theorem foldlM_safe {σ β : Type} {inv : σ → Prop} {add : σ → β → Adding σ}
    (safe : ∀ s b, inv s → NoPanic (add s b))
    (keeps : ∀ s b s', inv s → add s b = .ok s' → inv s') (list : List β) {s : σ}
    (first : inv s) :
    NoPanic (list.foldlM add s) ∧ ∀ s', list.foldlM add s = .ok s' → inv s' := by
  induction list generalizing s with
  | nil =>
    refine ⟨.pure s, fun s' same => ?_⟩
    cases same
    exact first
  | cons b rest ih =>
    constructor
    · exact .bind (safe s b first) fun next added => (ih (keeps s b next first added)).1
    · intro s' run
      obtain ⟨next, added, run⟩ := bind_eq_ok.mp run
      exact (ih (keeps s b next first added)).2 s' run

/-- No share is expected between two batches, nor before the certificates of the topic. -/
def ShamirReady (device : LocalDevice) (store : Store) : Prop := ShamirState device (none, store)

theorem ShamirReady.append (ready : ShamirReady device store) {added : List Certificate}
    (adds : Adds added store store') (elsewhere : ∀ c ∈ added, ∀ k, c ≠ .shamirRecovery k) :
    ShamirReady device store' := by
  obtain ⟨sound, topic⟩ := ready
  obtain ⟨sound', storage⟩ := adds sound
  refine ⟨sound', ?_⟩
  dsimp only at topic ⊢
  rw [storage]
  generalize store.storage = rows at topic
  clear adds storage
  induction added generalizing rows with
  | nil =>
    rw [List.append_nil]
    exact topic
  | cons certif rest ih =>
    have here := elsewhere certif (by simp)
    rw [List.append_cons]
    exact ih (fun c member => elsewhere c (by simp [member])) _
      (topic.append_none (.elsewhere certif here) fun brief => here (.brief brief))

theorem addSequester_ready {signed : SignedSequester} (ready : ShamirReady device store)
    (run : addSequester device store signed = .ok store') : ShamirReady device store' := by
  apply ready.append (addSequester_adds run)
  intro certif member k same
  cases signed <;> simp [SignedSequester.certificates] at member
  all_goals
    cases member.symm.trans same

theorem addCommon_ready {signed : Signed CommonCertificate} (ready : ShamirReady device store)
    (run : addCommon device store signed = .ok store') : ShamirReady device store' := by
  apply ready.append (addCommon_adds run)
  intro certif member k same
  cases signed with
  | malformed error => cases member
  | certificate content key => cases (List.mem_singleton.mp member).symm.trans same

theorem addRealm_ready {id : VlobID} {signed : Signed RealmCertificate}
    (ready : ShamirReady device store) (run : addRealm id store signed = .ok store') :
    ShamirReady device store' := by
  apply ready.append (addRealm_adds run)
  intro certif member k same
  cases signed with
  | malformed error => cases member
  | certificate content key => cases (List.mem_singleton.mp member).symm.trans same

/-- Code that does not panic and leaves a store with no share expected. -/
def Readily (device : LocalDevice) (result : Adding Store) : Prop :=
  NoPanic result ∧ ∀ store', result = .ok store' → ShamirReady device store'

theorem addSequesters_ready (batch : Batch) (ready : ShamirReady device store) :
    Readily device (batch.sequester.foldlM (addSequester device) store) :=
  foldlM_safe (fun _ signed _ => addSequester_noPanic signed) (fun _ _ _ => addSequester_ready)
    batch.sequester ready

theorem addCommons_ready (batch : Batch) (ready : ShamirReady device store) :
    Readily device (batch.common.foldlM (addCommon device) store) :=
  foldlM_safe (fun _ signed _ => addCommon_noPanic signed) (fun _ _ _ => addCommon_ready)
    batch.common ready

theorem addRealms_ready (entry : VlobID × List (Signed RealmCertificate))
    (ready : ShamirReady device store) : Readily device (addRealms store entry) :=
  foldlM_safe (fun _ signed _ => addRealm_noPanic entry.1 signed) (fun _ _ _ => addRealm_ready)
    entry.2 ready

theorem addAllRealms_ready (batch : Batch) (ready : ShamirReady device store) :
    Readily device (batch.realm.foldlM addRealms store) :=
  foldlM_safe (fun _ entry ready => (addRealms_ready entry ready).1)
    (fun _ entry _ ready => (addRealms_ready entry ready).2 _) batch.realm ready

theorem addTopics_ready (batch : Batch) (ready : ShamirReady device store) :
    Readily device (addTopics device batch store) := by
  have first := addSequesters_ready batch ready
  have shamir : ∀ s, ShamirReady device s → _ := fun s ready =>
    foldlM_safe (fun _ signed ready => addShamirRecovery_noPanic ready signed)
      (fun _ _ _ ready run => addShamirRecovery_state ready run) batch.shamirRecovery
      (s := (none, s)) ready
  constructor
  · refine .bind first.1 fun s₁ run₁ => ?_
    have second := addCommons_ready batch (first.2 s₁ run₁)
    refine .bind second.1 fun s₂ run₂ => ?_
    have third := addAllRealms_ready batch (second.2 s₂ run₂)
    refine .bind third.1 fun s₃ run₃ => .bind (shamir s₃ (third.2 s₃ run₃)).1 fun last _ => ?_
    obtain ⟨expected, last⟩ := last
    cases expected with
    | none => exact .pure _
    | some brief => exact .invalid _
  · intro store' run
    obtain ⟨s₁, run₁, run⟩ := bind_eq_ok.mp run
    obtain ⟨s₂, run₂, run⟩ := bind_eq_ok.mp run
    obtain ⟨s₃, run₃, run⟩ := bind_eq_ok.mp run
    obtain ⟨⟨expected, last⟩, run₄, run⟩ := bind_eq_ok.mp run
    have second := (addCommons_ready batch (first.2 s₁ run₁)).2 s₂ run₂
    have third := (addAllRealms_ready batch second).2 s₃ run₃
    have fourth := (shamir s₃ third).2 _ run₄
    cases expected with
    | some brief => cases run
    | none =>
      cases run
      exact fourth

theorem ShamirReady.reads (ready : ShamirReady device store) (adds : Adds [] store store') :
    ShamirReady device store' :=
  ready.append adds fun _ member => by cases member

theorem shamirReady_empty : ShamirReady device ⟨[], .empty⟩ :=
  ⟨⟨trusted_empty [], admitted_nil⟩, shamirTopic_nil⟩

theorem addCertificatesBatch_ready (batch : Batch) (ready : ShamirReady device store) :
    NoPanic (addCertificatesBatch device batch store) ∧
      ∀ outcome store', addCertificatesBatch device batch store = .ok (outcome, store') →
        ShamirReady device store' := by
  unfold addCertificatesBatch
  split
  · refine ⟨.ok _, fun outcome store' run => ?_⟩
    cases run
    exact ready
  · obtain ⟨last, seen, read⟩ : ∃ last seen, store.getLastTimestamps = (last, seen) := ⟨_, _, rfl⟩
    have ready := ready.reads (getLastTimestamps_adds read)
    rw [read]
    dsimp only
    constructor
    · refine .bind (.internal _) fun initial selfProfile => ?_
      have ready := ready.reads (getCurrentSelfProfile_adds (internal_ok.mp selfProfile))
      refine .bind (addTopics_ready batch ready).1 fun added _ => ?_
      split
      · exact .pure _
      · refine .bind (.internal _) fun new _ => ?_
        split <;> exact .pure _
    · intro outcome store' run
      obtain ⟨⟨initial, known⟩, selfProfile, run⟩ := bind_eq_ok.mp run
      have ready := ready.reads (getCurrentSelfProfile_adds (internal_ok.mp selfProfile))
      obtain ⟨added, topics, run⟩ := bind_eq_ok.mp run
      have ready := (addTopics_ready batch ready).2 added topics
      split at run
      · cases run
        exact ready
      · obtain ⟨⟨new, last⟩, profile, run⟩ := bind_eq_ok.mp run
        dsimp only at run
        split at run
        · cases run
          exact shamirReady_empty
        · cases run
          exact ready.reads (getCurrentSelfProfile_adds (internal_ok.mp profile))

end Adding

theorem shamirReady_of_reachable (reached : Reachable device store) :
    ShamirReady device store := by
  apply reached.keeps
  · exact shamirReady_empty
  · rintro store batch store' ready _ ⟨outcome, run⟩
    exact (addCertificatesBatch_ready batch ready).2 outcome store' run

/-- The shamir recovery topic of every store reached by batches, and the batch after that. -/
theorem shamir_recovery_topic (reached : Reachable device store) :
    ShamirSound device.userId store.storage ∧
      ∀ batch panic, addCertificatesBatch device batch store ≠ .error (.panicked panic) := by
  have ready := shamirReady_of_reachable reached
  exact ⟨ready.2.sound, fun batch => (addCertificatesBatch_ready batch ready).1⟩

namespace Samples

def brief (author : DeviceID) (timestamp : DateTime) (user recipient : UserID) :
    Signed ShamirRecoveryCertificate :=
  .certificate (.brief ⟨author, timestamp, user, 1, [(recipient, 1)]⟩) ⟨author.uuid⟩

def bobShare (timestamp : DateTime) : Signed ShamirRecoveryCertificate :=
  .certificate (.share ⟨bob1, timestamp, bob, alice⟩) ⟨bob1.uuid⟩

def recoveries : Batch where
  common := enrollment
  sequester := []
  shamirRecovery := [brief bob1 3 bob alice, bobShare 3, brief alice1 4 alice bob,
    .certificate (.deletion ⟨bob1, 5, 3, bob, {alice}⟩) ⟨bob1.uuid⟩, brief bob1 6 bob alice,
    bobShare 6]
  realm := []
  distinct := List.nodup_nil

end Samples

set_option maxRecDepth 10000 in
theorem shamir_recovery_topic_of_alice : ∃ store, Reachable self store ∧
    store.storage = recoveries.arrivals ∧ ShamirSound alice store.storage := by
  obtain ⟨store, reached, stored⟩ := reachable_batch self recoveries ⟨_, _, rfl, rfl⟩
  exact ⟨store, reached, stored, (shamir_recovery_topic reached).1⟩

end ParsecCloud.Certif

import ParsecCloud.Server.Invitations

/- The data of a recovery (memory/invite.py, shamir_recovery_reveal): given through an invitation
   to whoever knows the reveal token. -/
namespace ParsecCloud.Server
open Certif Rust Runs

inductive InviteShamirRecoveryRevealBadOutcome where
  | organizationExpired
  | invitationNotFound
  | invitationDeleted
  | badInvitationType
  | badRevealToken
  deriving DecidableEq

inductive RevealReply where
  | cipheredData (bytes : List Byte)
  | bad (outcome : InviteShamirRecoveryRevealBadOutcome)
  | raised (error : Raised)
  deriving DecidableEq

/-- What a setup is stored with. -/
structure ShamirSecret where
  cipheredData : List Byte
  revealToken : InvitationToken
  deriving DecidableEq

/-- The organization, and the secrets of each user in the order of the recoveries. -/
structure RevealServer where
  invite : InviteServer
  secrets : UserID → List ShamirSecret

namespace RevealServer
variable (s : RevealServer)

/-- The recoveries of a user, each with its secret. -/
def shamirRecoveries (userId : UserID) : List (MemoryShamirRecovery × ShamirSecret) :=
  (s.invite.org.recoveriesOf userId).zip (s.secrets userId)

def withSecret (author : DeviceID) (secret : ShamirSecret) (userId : UserID) : List ShamirSecret :=
  match s.invite.org.devices.get? author with
  | none => s.secrets userId
  | some device =>
    if userId = device.cooked.userId then s.secrets userId ++ [secret] else s.secrets userId

/-- A setup is stored with the secret it comes with. -/
def after (secret : ShamirSecret) : InviteRequest → RevealServer
  | .setupShamir now author key brief shares =>
    match s.invite.org.setupShamir now author key brief shares with
    | .error _ => s
    | .ok org => ⟨{ s.invite with org := org }, s.withSecret author secret⟩
  | request => { s with invite := s.invite.after request }

def Step (request : InviteRequest × ShamirSecret) (s' : RevealServer) : Prop :=
  s.invite.Ready request.1 ∧ s' = s.after request.2 request.1

def shamirRecoveryReveal (token revealToken : InvitationToken) : RevealReply :=
  if s.invite.org.isExpired then .bad .organizationExpired
  else match s.invite.org.invitations.get? token with
  | none => .bad .invitationNotFound
  | some invitation =>
    if invitation.isDeleted then .bad .invitationDeleted
    else if invitation.type ≠ .shamirRecovery then .bad .badInvitationType
    else match invitation.claimerUserId with
    | none => .raised .assertionError
    | some claimerUserId =>
      if (s.invite.org.shamirRecoveries.get? claimerUserId).isNone then .raised .assertionError
      else match (s.shamirRecoveries claimerUserId).getLast? with
      | none => .bad .badRevealToken
      | some (_, secret) =>
        if secret.revealToken ≠ revealToken then .bad .badRevealToken
        else .cipheredData secret.cipheredData

/-- The setup that the invitation was made for. -/
def ownSetup (invitation : MemoryInvitation) : Option (MemoryShamirRecovery × ShamirSecret) :=
  match invitation.claimerUserId, invitation.shamirRecoveryIndex with
  | some claimerUserId, some index => (s.shamirRecoveries claimerUserId)[index]?
  | _, _ => none

/-- The token is that of a pending recovery invitation. -/
def IsPending (token : InvitationToken) (invitation : MemoryInvitation) : Prop :=
  s.invite.org.invitations.get? token = some invitation ∧ invitation.isDeleted = false ∧
    invitation.type = .shamirRecovery

/-- Data is given exactly when the setup of the pending invitation is not deleted, and it is the
    data of that setup. -/
def RevealsOwnSetup (token revealToken : InvitationToken) : Prop :=
  ∀ data, s.shamirRecoveryReveal token revealToken = .cipheredData data ↔
    ∃ invitation setup, s.IsPending token invitation ∧ s.ownSetup invitation = some setup ∧
      setup.1.isDeleted = false ∧ setup.2.revealToken = revealToken ∧
      setup.2.cipheredData = data

/-- The setup of the pending invitation is deleted, and the token is that of the last one. -/
def AsksThroughDeleted (token revealToken : InvitationToken) : Prop :=
  ∃ invitation setup claimerUserId last, s.IsPending token invitation ∧
    s.ownSetup invitation = some setup ∧ setup.1.isDeleted = true ∧
    invitation.claimerUserId = some claimerUserId ∧
    (s.shamirRecoveries claimerUserId).getLast? = some last ∧ last.2.revealToken = revealToken

end RevealServer

/-- At most the last recovery of a user is not deleted. -/
def OnlyLastKept (org : MemoryOrganization) : Prop :=
  ∀ (userId : UserID) (index : Nat) recovery, (org.recoveriesOf userId)[index]? = some recovery →
    recovery.isDeleted = false → index + 1 = (org.recoveriesOf userId).length

structure RevealInvariant (s : RevealServer) : Prop where
  kept : InvitationsKept s.invite.org
  notExpired : ∀ token invitation, s.invite.org.invitations.get? token = some invitation →
    s.invite.org.isExpired = false
  together : ∀ userId, (s.secrets userId).length = (s.invite.org.recoveriesOf userId).length
  onlyLast : OnlyLastKept s.invite.org

variable {org org' : MemoryOrganization} {s s' start : RevealServer}

section Steps
variable {author : DeviceID} {userId : UserID}

theorem newInvitationAuthor_ok {found : UserID × MemoryUser}
    (ok : org.newInvitationAuthor author = .ok found) : org.isExpired = false := by
  unfold MemoryOrganization.newInvitationAuthor at ok
  obtain ⟨_, notExpired, -⟩ := bind_eq_ok.mp ok
  exact refuse_eq_ok.mp notExpired

theorem setupShamir_ok {now : DateTime} {key : VerifyKey}
    {brief : Uploaded ShamirRecoveryBriefCertificate}
    {shares : List (Uploaded ShamirRecoveryShareCertificate)}
    (ok : org.setupShamir now author key brief shares = .ok org') :
    ∃ device recovery, org.devices.get? author = some device ∧ recovery.isDeleted = false ∧
      (∀ previous, (org.recoveriesOf device.cooked.userId).getLast? = some previous →
        previous.isDeleted = true) ∧
      org' = org.withSetup device.cooked.userId recovery := by
  unfold MemoryOrganization.setupShamir at ok
  obtain ⟨userId, isAuthor, ok⟩ := bind_eq_ok.mp ok
  obtain ⟨valid, -, ok⟩ := bind_eq_ok.mp ok
  obtain ⟨_, -, ok⟩ := bind_eq_ok.mp ok
  obtain ⟨_, deleted, ok⟩ := bind_eq_ok.mp ok
  obtain ⟨_, -, ok⟩ := bind_eq_ok.mp ok
  cases ok
  obtain ⟨device, isDevice, isUser⟩ := checkShamirAuthor_ok isAuthor
  cases isUser
  refine ⟨device, _, isDevice, rfl, ?_, rfl⟩
  intro previous isLast
  have deleted := refuse_eq_ok.mp deleted
  rw [isLast] at deleted
  simpa using deleted

theorem OnlyLastKept.withSetup (onlyLast : OnlyLastKept org) {recovery : MemoryShamirRecovery}
    (deleted : ∀ previous, (org.recoveriesOf userId).getLast? = some previous →
      previous.isDeleted = true) :
    OnlyLastKept (org.withSetup userId recovery) := by
  intro other index found isFound notDeleted
  rw [recoveriesOf_withSetup] at isFound ⊢
  split
  · rename_i same
    rw [if_pos same] at isFound
    rw [List.length_append, List.length_singleton]
    by_cases isOld : index < (org.recoveriesOf userId).length
    · rw [List.getElem?_append_left isOld] at isFound
      have isLast := onlyLast userId index found isFound notDeleted
      have last : (org.recoveriesOf userId).getLast? = some found := by
        rw [List.getLast?_eq_getElem?, ← isLast, Nat.add_sub_cancel]
        exact isFound
      rw [deleted found last] at notDeleted
      cases notDeleted
    · have bound := (List.getElem?_eq_some_iff.mp isFound).1
      rw [List.length_append, List.length_singleton] at bound
      omega
  · rename_i apart
    rw [if_neg apart] at isFound
    exact onlyLast other index found isFound notDeleted

theorem OnlyLastKept.withDeletion (onlyLast : OnlyLastKept org) {place : Nat}
    {setup : MemoryShamirRecovery} {certif : ShamirRecoveryDeletionCertificate} {raw : List Byte} :
    OnlyLastKept (org.withDeletion userId place setup certif raw) := by
  intro other index found isFound notDeleted
  rw [recoveriesOf_withDeletion] at isFound ⊢
  split
  · rename_i same
    rw [if_pos same, List.getElem?_set] at isFound
    rw [List.length_set]
    split at isFound
    · split at isFound
      · cases isFound
        cases notDeleted
      · cases isFound
    · exact onlyLast userId index found isFound notDeleted
  · rename_i apart
    rw [if_neg apart] at isFound
    exact onlyLast other index found isFound notDeleted

end Steps

namespace RevealInvariant
variable (inv : RevealInvariant s)

include inv

theorem invites {invite : InviteServer} (kept : InvitationsKept invite.org)
    (notExpired : ∀ token invitation, invite.org.invitations.get? token = some invitation →
      invite.org.isExpired = false)
    (same : invite.org.shamirRecoveries = s.invite.org.shamirRecoveries) :
    RevealInvariant { s with invite := invite } := by
  have recoveries : ∀ userId, invite.org.recoveriesOf userId = s.invite.org.recoveriesOf userId := by
    intro userId
    unfold MemoryOrganization.recoveriesOf
    rw [same]
  constructor
  · exact kept
  · exact notExpired
  · intro userId
    rw [recoveries]
    exact inv.together userId
  · intro userId index recovery
    rw [recoveries]
    exact inv.onlyLast userId index recovery

theorem reuseOrCreate {isAskedFor : MemoryInvitation → Bool} {invitation : MemoryInvitation}
    (notExpired : s.invite.org.isExpired = false) (asks : AsksFor isAskedFor invitation)
    (recovery : invitation.type = .shamirRecovery →
      ∃ recovery, s.invite.org.invitedRecovery invitation = .ok recovery) :
    RevealInvariant { s with
      invite := s.invite.afterNew (.ok (s.invite.org.reuseOrCreate isAskedFor invitation)) } := by
  apply inv.invites
  · exact reuseOrCreate_kept inv.kept asks recovery
  · intro _ _ _
    rcases reuseOrCreate_cases isAskedFor invitation inv.kept.token with
      ⟨_, _, _, _, reused⟩ | ⟨_, created⟩
    · rw [reused]
      exact notExpired
    · rw [created]
      exact notExpired
  · rcases reuseOrCreate_cases isAskedFor invitation inv.kept.token with
      ⟨_, _, _, _, reused⟩ | ⟨_, created⟩
    · rw [reused]
      rfl
    · rw [created]
      rfl

theorem newForUser (author : DeviceID) (email : EmailAddress) (newToken : InvitationToken) :
    RevealInvariant { s with
      invite := s.invite.afterNew (s.invite.org.newForUser author email newToken) } := by
  cases outcome : s.invite.org.newForUser author email newToken with
  | error error => exact inv
  | ok result =>
    unfold MemoryOrganization.newForUser at outcome
    obtain ⟨_, checked, outcome⟩ := bind_eq_ok.mp outcome
    cases outcome
    unfold MemoryOrganization.newForUserCheck at checked
    obtain ⟨_, isAuthor, -⟩ := bind_eq_ok.mp checked
    apply inv.reuseOrCreate (newInvitationAuthor_ok isAuthor) (asksFor_user email newToken)
    intro isRecovery
    cases isRecovery

theorem newForDevice (author : DeviceID) (newToken : InvitationToken) :
    RevealInvariant { s with
      invite := s.invite.afterNew (s.invite.org.newForDevice author newToken) } := by
  cases outcome : s.invite.org.newForDevice author newToken with
  | error error => exact inv
  | ok result =>
    unfold MemoryOrganization.newForDevice at outcome
    obtain ⟨found, isAuthor, outcome⟩ := bind_eq_ok.mp outcome
    cases outcome
    apply inv.reuseOrCreate (newInvitationAuthor_ok isAuthor)
      (asksFor_device found.1 newToken)
    intro isRecovery
    cases isRecovery

theorem newForShamirRecovery (author : DeviceID) (claimerUserId : UserID)
    (newToken : InvitationToken) :
    RevealInvariant { s with
      invite := s.invite.afterNew
        (s.invite.org.newForShamirRecovery author claimerUserId newToken) } := by
  cases outcome : s.invite.org.newForShamirRecovery author claimerUserId newToken with
  | error error => exact inv
  | ok result =>
    unfold MemoryOrganization.newForShamirRecovery at outcome
    obtain ⟨found, checked, outcome⟩ := bind_eq_ok.mp outcome
    cases outcome
    obtain ⟨recovery, isPlaced, -⟩ := newForShamirRecoveryCheck_ok checked
    unfold MemoryOrganization.newForShamirRecoveryCheck at checked
    obtain ⟨_, isAuthor, -⟩ := bind_eq_ok.mp checked
    apply inv.reuseOrCreate (newInvitationAuthor_ok isAuthor)
      (asksFor_shamirRecovery claimerUserId newToken found.1.email found.2)
    intro _
    exact ⟨recovery, invitedRecovery_of rfl rfl isPlaced⟩

theorem delete {token : InvitationToken} {invitation : MemoryInvitation}
    (found : s.invite.org.invitations.get? token = some invitation)
    (reason : MemoryInvitationDeletedReason) :
    RevealInvariant { s with
      invite := { s.invite with org := s.invite.org.deleteInvitation token invitation reason } } := by
  apply inv.invites
  · exact inv.kept.delete found reason
  · intro _ _ _
    exact inv.notExpired token invitation found
  · rfl

theorem cancel (author : DeviceID) (token : InvitationToken) :
    RevealInvariant { s with
      invite := { s.invite with org := (s.invite.org.cancelInvitation author token).2 } } := by
  unfold MemoryOrganization.cancelInvitation
  cases checked : s.invite.org.cancelCheck author token with
  | error reply => exact inv
  | ok invitation => exact inv.delete (cancelCheck_ok checked).1 .cancelled

theorem complete (author : DeviceID) (token : InvitationToken) :
    RevealInvariant { s with
      invite := { s.invite with org := (s.invite.org.completeInvitation author token).2 } } := by
  unfold MemoryOrganization.completeInvitation
  cases checked : s.invite.org.completeCheck author token with
  | error reply => exact inv
  | ok invitation => exact inv.delete (completeCheck_ok checked).1 .finished

theorem setup (now : DateTime) (author : DeviceID) (key : VerifyKey)
    (brief : Uploaded ShamirRecoveryBriefCertificate)
    (shares : List (Uploaded ShamirRecoveryShareCertificate)) (secret : ShamirSecret) :
    RevealInvariant (s.after secret (.setupShamir now author key brief shares)) := by
  cases ok : s.invite.org.setupShamir now author key brief shares with
  | error error =>
    simp only [RevealServer.after, ok]
    exact inv
  | ok org =>
    simp only [RevealServer.after, ok]
    obtain ⟨device, recovery, isDevice, -, deleted, rfl⟩ := setupShamir_ok ok
    constructor
    · apply inv.kept.recoveries
      · rfl
      · intro userId index recovery isPlaced
        exact ⟨recovery, withSetup_recovery isPlaced⟩
    · exact inv.notExpired
    · intro userId
      have together := inv.together
      simp only [RevealServer.withSecret, isDevice, recoveriesOf_withSetup]
      by_cases same : userId = device.cooked.userId
      · simp [same, together]
      · simp [same, together]
    · exact inv.onlyLast.withSetup deleted

theorem deletion (now : DateTime) (author : DeviceID) (key : VerifyKey)
    (certificate : Uploaded ShamirRecoveryDeletionCertificate) :
    RevealInvariant { s with
      invite := s.invite.afterShamir (s.invite.org.deleteShamir now author key certificate) } := by
  cases ok : s.invite.org.deleteShamir now author key certificate with
  | error error => exact inv
  | ok org =>
    obtain ⟨device, index, setup, certif, raw, -, rfl⟩ := deleteShamir_ok ok
    constructor
    · exact inv.kept.recoveries rfl withDeletion_recoveriesKept
    · exact inv.notExpired
    · intro userId
      have together := inv.together
      simp only [InviteServer.afterShamir, recoveriesOf_withDeletion]
      by_cases same : userId = device.cooked.userId
      · simp [same, together]
      · simp [same, together]
    · exact inv.onlyLast.withDeletion

theorem step {request : InviteRequest × ShamirSecret} (taken : s.Step request s') :
    RevealInvariant s' := by
  obtain ⟨-, rfl⟩ := taken
  obtain ⟨request, secret⟩ := request
  cases request with
  | newForUser author email newToken => exact inv.newForUser author email newToken
  | newForDevice author newToken => exact inv.newForDevice author newToken
  | newForShamirRecovery author claimerUserId newToken =>
    exact inv.newForShamirRecovery author claimerUserId newToken
  | returns token => exact inv.invites inv.kept inv.notExpired rfl
  | cancel author token => exact inv.cancel author token
  | complete author token => exact inv.complete author token
  | setupShamir now author key brief shares =>
    exact inv.setup now author key brief shares secret
  | deleteShamir now author key certificate => exact inv.deletion now author key certificate

theorem ownSetup {token : InvitationToken} {invitation : MemoryInvitation}
    (pending : s.IsPending token invitation) :
    ∃ claimerUserId, ∃ index : Nat, ∃ recovery secret,
      invitation.claimerUserId = some claimerUserId ∧
      (s.invite.org.recoveriesOf claimerUserId)[index]? = some recovery ∧
      (s.shamirRecoveries claimerUserId)[index]? = some (recovery, secret) ∧
      s.ownSetup invitation = some (recovery, secret) := by
  obtain ⟨found, -, isRecovery⟩ := pending
  obtain ⟨recovery, isInvited⟩ := inv.kept.recovery token invitation found isRecovery
  obtain ⟨claimerUserId, index, isUser, isIndex, isPlaced⟩ := invitedRecovery_ok isInvited
  have bound : index < (s.secrets claimerUserId).length := by
    rw [inv.together]
    exact (List.getElem?_eq_some_iff.mp isPlaced).1
  have placed : (s.shamirRecoveries claimerUserId)[index]? =
      some (recovery, (s.secrets claimerUserId)[index]) := by
    rw [RevealServer.shamirRecoveries, List.getElem?_zip_eq_some]
    exact ⟨isPlaced, List.getElem?_eq_getElem bound⟩
  refine ⟨claimerUserId, index, recovery, _, isUser, isPlaced, placed, ?_⟩
  simp only [RevealServer.ownSetup, isUser, isIndex]
  exact placed

theorem isLast {userId : UserID} {index : Nat} {recovery : MemoryShamirRecovery}
    {secret : ShamirSecret} (isPlaced : (s.invite.org.recoveriesOf userId)[index]? = some recovery)
    (placed : (s.shamirRecoveries userId)[index]? = some (recovery, secret))
    (notDeleted : recovery.isDeleted = false) :
    (s.shamirRecoveries userId).getLast? = some (recovery, secret) := by
  have last := inv.onlyLast userId index recovery isPlaced notDeleted
  have length : (s.shamirRecoveries userId).length = index + 1 := by
    rw [RevealServer.shamirRecoveries, List.length_zip, inv.together, Nat.min_self]
    exact last.symm
  rw [List.getLast?_eq_getElem?, length, Nat.add_sub_cancel]
  exact placed

end RevealInvariant

theorem RevealInvariant.revealed_iff (inv : RevealInvariant s)
    {token revealToken : InvitationToken} {data : List Byte} :
    s.shamirRecoveryReveal token revealToken = .cipheredData data ↔
      ∃ invitation claimerUserId last, s.IsPending token invitation ∧
        invitation.claimerUserId = some claimerUserId ∧
        (s.shamirRecoveries claimerUserId).getLast? = some last ∧
        last.2.revealToken = revealToken ∧ last.2.cipheredData = data := by
  unfold RevealServer.shamirRecoveryReveal
  constructor
  · intro revealed
    split at revealed
    · cases revealed
    split at revealed
    · cases revealed
    rename_i invitation found
    split at revealed
    · cases revealed
    rename_i notDeleted
    split at revealed
    · cases revealed
    rename_i isRecovery
    split at revealed
    · cases revealed
    rename_i claimerUserId isUser
    split at revealed
    · cases revealed
    split at revealed
    · cases revealed
    rename_i recovery secret isLast
    split at revealed
    · cases revealed
    rename_i sameToken
    cases revealed
    exact ⟨invitation, claimerUserId, (recovery, secret),
      ⟨found, Bool.eq_false_iff.mpr notDeleted, not_not.mp isRecovery⟩, isUser, isLast,
      not_not.mp sameToken, rfl⟩
  · intro revealed
    obtain ⟨invitation, claimerUserId, last, pending, isUser, isLast, sameToken, rfl⟩ := revealed
    have notExpired := inv.notExpired token invitation pending.1
    have known : (s.invite.org.shamirRecoveries.get? claimerUserId).isNone = false := by
      cases recoveries : s.invite.org.shamirRecoveries.get? claimerUserId with
      | none =>
        simp [RevealServer.shamirRecoveries, MemoryOrganization.recoveriesOf, recoveries] at isLast
      | some recoveries => rfl
    simp [notExpired, pending.1, pending.2.1, pending.2.2, isUser, known, isLast, sameToken]

structure RevealServer.Fresh (start : RevealServer) : Prop where
  invitations : start.invite.org.invitations = .empty
  recoveries : start.invite.org.shamirRecoveries = .empty
  secrets : ∀ userId, start.secrets userId = []
  idle : start.invite.sending = none

theorem RevealServer.Fresh.inv (fresh : start.Fresh) : RevealInvariant start := by
  have none : ∀ token, start.invite.org.invitations.get? token = none := by
    intro token
    rw [fresh.invitations]
    rfl
  have noRecovery : ∀ userId, start.invite.org.recoveriesOf userId = [] := by
    intro userId
    unfold MemoryOrganization.recoveriesOf
    rw [fresh.recoveries]
    rfl
  constructor
  · constructor
    · intro token invitation found
      rw [none] at found
      cases found
    · intro token _ invitation _ found
      rw [none] at found
      cases found
    · intro token invitation found
      rw [none] at found
      cases found
  · intro token invitation found
    rw [none] at found
    cases found
  · intro userId
    rw [fresh.secrets, noRecovery]
    rfl
  · intro userId index recovery isPlaced
    rw [noRecovery] at isPlaced
    cases isPlaced

/-- Data goes through a live invitation only, and through every live one, unless the reveal token
    of a later setup comes with the invitation for a deleted one. -/
theorem recovery_revealed_iff (fresh : start.Fresh)
    (run : Run RevealServer.Step (fun _ _ => True) start s) (token revealToken : InvitationToken) :
    s.RevealsOwnSetup token revealToken ↔ ¬ s.AsksThroughDeleted token revealToken := by
  have inv : RevealInvariant s :=
    run.keeps fresh.inv fun _ _ _ inv _ taken => inv.step taken
  constructor
  · intro reveals asks
    obtain ⟨invitation, setup, claimerUserId, last, pending, own, deleted, isUser, isLast,
      sameToken⟩ := asks
    have revealed := inv.revealed_iff.mpr
      ⟨invitation, claimerUserId, last, pending, isUser, isLast, sameToken, rfl⟩
    obtain ⟨other, otherSetup, otherPending, otherOwn, notDeleted, -⟩ := (reveals _).mp revealed
    have same : invitation = other := Option.some.inj (pending.1.symm.trans otherPending.1)
    rw [← same, own] at otherOwn
    cases otherOwn
    rw [deleted] at notDeleted
    cases notDeleted
  · intro notAsked data
    rw [inv.revealed_iff]
    constructor
    · intro revealed
      obtain ⟨invitation, claimerUserId, last, pending, isUser, isLast, sameToken, sameData⟩ :=
        revealed
      obtain ⟨userId, index, recovery, secret, isClaimer, isPlaced, placed, own⟩ :=
        inv.ownSetup pending
      cases isUser.symm.trans isClaimer
      cases deleted : recovery.isDeleted with
      | true =>
        exact absurd ⟨invitation, (recovery, secret), claimerUserId, last, pending, own, deleted,
          isUser, isLast, sameToken⟩ notAsked
      | false =>
        have last_eq := inv.isLast isPlaced placed deleted
        cases isLast.symm.trans last_eq
        exact ⟨invitation, (recovery, secret), pending, own, deleted, sameToken, sameData⟩
    · intro live
      obtain ⟨invitation, setup, pending, own, notDeleted, sameToken, sameData⟩ := live
      obtain ⟨claimerUserId, index, recovery, secret, isClaimer, isPlaced, placed, isOwn⟩ :=
        inv.ownSetup pending
      cases own.symm.trans isOwn
      exact ⟨invitation, claimerUserId, (recovery, secret), pending, isClaimer,
        inv.isLast isPlaced placed notDeleted, sameToken, sameData⟩

def revealStart : RevealServer := ⟨⟨aliceAndBob, none⟩, fun _ => []⟩

def aliceSecret : ShamirSecret := ⟨[1, 2, 3], ⟨9⟩⟩

def afterAliceSetsUp : RevealServer := revealStart.after aliceSecret (aliceSetsUp 1)

def afterBobInvites : RevealServer :=
  afterAliceSetsUp.after aliceSecret (.newForShamirRecovery ⟨2⟩ ⟨1⟩ ⟨7⟩)

def afterAliceDeletes : RevealServer := afterBobInvites.after aliceSecret (aliceDeletes 2 1)

theorem revealStart_fresh : revealStart.Fresh := ⟨rfl, rfl, fun _ => rfl, rfl⟩

theorem afterBobInvites_reached :
    Run RevealServer.Step (fun _ _ => True) revealStart afterBobInvites := by
  have idle : afterAliceSetsUp.invite.sending = none := by decide +kernel
  apply Run.step (t := (.newForShamirRecovery ⟨2⟩ ⟨1⟩ ⟨7⟩, aliceSecret)) _ trivial ⟨idle, rfl⟩
  exact Run.step (t := (aliceSetsUp 1, aliceSecret)) .start trivial ⟨trivial, rfl⟩

theorem recovery_revealed_to_bob : afterBobInvites.RevealsOwnSetup ⟨7⟩ ⟨9⟩ := by
  apply (recovery_revealed_iff revealStart_fresh afterBobInvites_reached ⟨7⟩ ⟨9⟩).mpr
  intro asks
  obtain ⟨invitation, setup, _, _, pending, own, isDeleted, -⟩ := asks
  have kept : ((afterBobInvites.invite.org.invitations.get? ⟨7⟩).bind
      afterBobInvites.ownSetup).map (fun setup => setup.1.isDeleted) = some false := by
    decide +kernel
  rw [pending.1, Option.bind_some, own, Option.map_some, isDeleted] at kept
  cases kept

/-- Alice has deleted her setup, and it is still revealed through the invitation for it. -/
theorem deleted_recovery_revealed :
    ¬ ∀ start s : RevealServer, start.Fresh →
      Run RevealServer.Step (fun _ _ => True) start s →
      ∀ token revealToken, s.RevealsOwnSetup token revealToken := by
  intro claim
  have run : Run RevealServer.Step (fun _ _ => True) revealStart afterAliceDeletes :=
    Run.step (t := (aliceDeletes 2 1, aliceSecret)) afterBobInvites_reached trivial ⟨trivial, rfl⟩
  have revealed : afterAliceDeletes.shamirRecoveryReveal ⟨7⟩ ⟨9⟩ = .cipheredData [1, 2, 3] := by
    decide +kernel
  have reveals := claim _ _ revealStart_fresh run ⟨7⟩ ⟨9⟩ [1, 2, 3]
  obtain ⟨invitation, setup, pending, own, notDeleted, -⟩ := reveals.mp revealed
  have deleted : ((afterAliceDeletes.invite.org.invitations.get? ⟨7⟩).bind
      afterAliceDeletes.ownSetup).map (fun setup => setup.1.isDeleted) = some true := by
    decide +kernel
  rw [pending.1, Option.bind_some, own, Option.map_some, notDeleted] at deleted
  cases deleted

end ParsecCloud.Server

import ParsecCloud.Server.Effects
import ParsecCloud.Server.GreetingRuns
import ParsecCloud.Lib.Runs

/- New invitations (memory/invite.py). A call that has chosen its invitation keeps the lock on the
   creations while it sends its event and its email, and other calls go on meanwhile. -/
namespace ParsecCloud.Server
open Certif Rust Runs

inductive NewInvitationBadOutcome where
  | organizationExpired
  | authorNotFound
  | authorRevoked
  | authorNotAllowed
  | claimerEmailAlreadyEnrolled
  | userNotFound
  deriving DecidableEq

namespace MemoryInvitation

def isDeleted (invitation : MemoryInvitation) : Bool := invitation.deletedReason.isSome

/-- Who the invitation is for: an address, or a user of the organization. -/
def claimer (invitation : MemoryInvitation) : Option EmailAddress ⊕ Option UserID :=
  match invitation.type with
  | .user => .inl invitation.claimerEmail
  | _ => .inr invitation.claimerUserId

end MemoryInvitation

namespace MemoryOrganization
variable (org : MemoryOrganization)

def newInvitationAuthor (author : DeviceID) :
    Except NewInvitationBadOutcome (UserID × MemoryUser) := do
  refuse org.isExpired .organizationExpired
  match org.devices.get? author with
  | none => throw .authorNotFound
  | some device =>
    match org.users.get? device.cooked.userId with
    | none => throw .authorNotFound
    | some user =>
      refuse user.isRevoked .authorRevoked
      return (device.cooked.userId, user)

/-- An invitation that exists for what the user has asked for is used again. -/
def reuseOrCreate (isAskedFor : MemoryInvitation → Bool) (invitation : MemoryInvitation) :
    InvitationToken × MemoryOrganization :=
  match org.invitations.values.find? fun existing =>
      !existing.isDeleted && isAskedFor existing with
  | some existing => (existing.token, org)
  | none =>
    (invitation.token, { org with invitations := org.invitations.set invitation.token invitation })

def newForUserCheck (author : DeviceID) (claimerEmail : EmailAddress) :
    Except NewInvitationBadOutcome Unit := do
  let (_, authorUser) ← org.newInvitationAuthor author
  refuse (authorUser.currentProfile ≠ .admin) .authorNotAllowed
  refuse (org.users.values.any fun user => !user.isRevoked && user.email = claimerEmail)
    .claimerEmailAlreadyEnrolled

def newForUser (author : DeviceID) (claimerEmail : EmailAddress) (newToken : InvitationToken) :
    Except NewInvitationBadOutcome (InvitationToken × MemoryOrganization) := do
  org.newForUserCheck author claimerEmail
  return org.reuseOrCreate
    (fun existing => existing.type = .user && existing.claimerEmail = some claimerEmail)
    ⟨newToken, .user, some claimerEmail, none, none, none, .empty⟩

def newForDevice (author : DeviceID) (newToken : InvitationToken) :
    Except NewInvitationBadOutcome (InvitationToken × MemoryOrganization) := do
  let (authorUserId, _) ← org.newInvitationAuthor author
  return org.reuseOrCreate
    (fun existing => existing.type = .device && existing.claimerUserId = some authorUserId)
    ⟨newToken, .device, none, some authorUserId, none, none, .empty⟩

/-- The claimer, and the index of the last recovery, which is not deleted. -/
def newForShamirRecoveryCheck (author : DeviceID) (claimerUserId : UserID) :
    Except NewInvitationBadOutcome (MemoryUser × Nat) := do
  let (authorUserId, _) ← org.newInvitationAuthor author
  match org.users.get? claimerUserId with
  | none => throw .userNotFound
  | some claimer =>
    let claimerShamirRecoveries := org.recoveriesOf claimerUserId
    let lastShamirRecoveryIndex := claimerShamirRecoveries.length - 1
    match claimerShamirRecoveries[lastShamirRecoveryIndex]? with
    | none => throw .authorNotAllowed
    | some lastShamirRecovery =>
      refuse lastShamirRecovery.isDeleted .authorNotAllowed
      refuse (lastShamirRecovery.shares.get? authorUserId).isNone .authorNotAllowed
      return (claimer, lastShamirRecoveryIndex)

def newForShamirRecovery (author : DeviceID) (claimerUserId : UserID)
    (newToken : InvitationToken) :
    Except NewInvitationBadOutcome (InvitationToken × MemoryOrganization) := do
  let (claimer, index) ← org.newForShamirRecoveryCheck author claimerUserId
  return org.reuseOrCreate
    (fun existing =>
      existing.type = .shamirRecovery && existing.claimerUserId = some claimerUserId)
    ⟨newToken, .shamirRecovery, some claimer.email, some claimerUserId, some index, none, .empty⟩

end MemoryOrganization

/-- The organization, and the token of the call that sends its event and its email. -/
structure InviteServer where
  org : MemoryOrganization
  sending : Option InvitationToken

inductive InviteRequest where
  | newForUser (author : DeviceID) (claimerEmail : EmailAddress) (newToken : InvitationToken)
  | newForDevice (author : DeviceID) (newToken : InvitationToken)
  | newForShamirRecovery (author : DeviceID) (claimerUserId : UserID) (newToken : InvitationToken)
  | returns (token : InvitationToken)
  | cancel (author : DeviceID) (token : InvitationToken)
  | complete (author : DeviceID) (token : InvitationToken)
  | setupShamir (now : DateTime) (author : DeviceID) (key : VerifyKey)
      (brief : Uploaded ShamirRecoveryBriefCertificate)
      (shares : List (Uploaded ShamirRecoveryShareCertificate))
  | deleteShamir (now : DateTime) (author : DeviceID) (key : VerifyKey)
      (certificate : Uploaded ShamirRecoveryDeletionCertificate)

namespace InviteServer
variable (s : InviteServer)

/-- A creation is refused, or it has chosen its invitation. -/
def afterNew : Except NewInvitationBadOutcome (InvitationToken × MemoryOrganization) → InviteServer
  | .error _ => s
  | .ok (token, org) => ⟨org, some token⟩

def afterShamir : Except BadOutcome MemoryOrganization → InviteServer
  | .error _ => s
  | .ok org => { s with org := org }

/-- A creation waits for the lock of the one that sends. -/
def Ready : InviteRequest → Prop
  | .newForUser .. => s.sending = none
  | .newForDevice .. => s.sending = none
  | .newForShamirRecovery .. => s.sending = none
  | .returns token => s.sending = some token
  | _ => True

def after : InviteRequest → InviteServer
  | .newForUser author claimerEmail newToken =>
    s.afterNew (s.org.newForUser author claimerEmail newToken)
  | .newForDevice author newToken => s.afterNew (s.org.newForDevice author newToken)
  | .newForShamirRecovery author claimerUserId newToken =>
    s.afterNew (s.org.newForShamirRecovery author claimerUserId newToken)
  | .returns _ => { s with sending := none }
  | .cancel author token => { s with org := (s.org.cancelInvitation author token).2 }
  | .complete author token => { s with org := (s.org.completeInvitation author token).2 }
  | .setupShamir now author key brief shares =>
    s.afterShamir (s.org.setupShamir now author key brief shares)
  | .deleteShamir now author key certificate =>
    s.afterShamir (s.org.deleteShamir now author key certificate)

def Step (request : InviteRequest) (s' : InviteServer) : Prop :=
  s.Ready request ∧ s' = s.after request

end InviteServer

/-- No invitation of the claimer that is not deleted is for a recovery that is. -/
def NoStaleInvitation (org : MemoryOrganization) (claimerUserId : UserID) : Prop :=
  ∀ token invitation, org.invitations.get? token = some invitation →
    invitation.isDeleted = false → invitation.type = .shamirRecovery →
    invitation.claimerUserId = some claimerUserId → org.isInvitationCancelled invitation ≠ .ok true

/-- An accepted call for a recovery finds no stale invitation, and none ends the invitation of a
    call that is sending its event and its email. -/
def Undisturbed (s : InviteServer) : InviteRequest → Prop
  | .newForShamirRecovery author claimerUserId _ =>
    ∀ checked, s.org.newForShamirRecoveryCheck author claimerUserId = .ok checked →
      NoStaleInvitation s.org claimerUserId
  | .cancel author token =>
    s.sending = some token → ∀ invitation, s.org.cancelCheck author token ≠ .ok invitation
  | .complete author token =>
    s.sending = some token → ∀ invitation, s.org.completeCheck author token ≠ .ok invitation
  | .deleteShamir now author key certificate =>
    ∀ token invitation device, s.sending = some token →
      s.org.invitations.get? token = some invitation → invitation.type = .shamirRecovery →
      s.org.devices.get? author = some device →
      invitation.claimerUserId = some device.cooked.userId →
      ∀ org', s.org.deleteShamir now author key certificate ≠ .ok org'
  | _ => True

variable {org org' : MemoryOrganization} {s s' : InviteServer}

def KeptUnderToken (org : MemoryOrganization) : Prop :=
  ∀ token invitation, org.invitations.get? token = some invitation → invitation.token = token

def UniqueForClaimer (org : MemoryOrganization) : Prop :=
  ∀ token token' invitation invitation', org.invitations.get? token = some invitation →
    org.invitations.get? token' = some invitation' → invitation.isDeleted = false →
    invitation'.isDeleted = false → invitation.type = invitation'.type →
    invitation.claimer = invitation'.claimer → token = token'

/-- Every invitation for a recovery says which one. -/
def RecoveriesExist (org : MemoryOrganization) : Prop :=
  ∀ token invitation, org.invitations.get? token = some invitation →
    invitation.type = .shamirRecovery → ∃ recovery, org.invitedRecovery invitation = .ok recovery

structure InvitationsKept (org : MemoryOrganization) : Prop where
  token : KeptUnderToken org
  unique : UniqueForClaimer org
  recovery : RecoveriesExist org

theorem isCompleted_of_open {invitation : MemoryInvitation}
    (notDeleted : invitation.isDeleted = false) : invitation.isCompleted = false := by
  unfold MemoryInvitation.isDeleted at notDeleted
  rw [Option.isSome_eq_false_iff, Option.isNone_iff_eq_none] at notDeleted
  simp [MemoryInvitation.isCompleted, notDeleted]

theorem isCancelled_of_open {invitation : MemoryInvitation}
    (notDeleted : invitation.isDeleted = false) : invitation.isCancelled = false := by
  unfold MemoryInvitation.isDeleted at notDeleted
  rw [Option.isSome_eq_false_iff, Option.isNone_iff_eq_none] at notDeleted
  simp [MemoryInvitation.isCancelled, notDeleted]

theorem IsOpen.notDeleted {invitation : MemoryInvitation} (isOpen : IsOpen org invitation) :
    invitation.isDeleted = false := by
  obtain ⟨notCompleted, notCancelled⟩ := isOpen
  unfold MemoryOrganization.isInvitationCancelled at notCancelled
  unfold MemoryInvitation.isDeleted
  cases deleted : invitation.deletedReason with
  | none => rfl
  | some reason =>
    cases reason with
    | finished => simp [MemoryInvitation.isCompleted, deleted] at notCompleted
    | cancelled => simp [MemoryInvitation.isCancelled, deleted, pure, Except.pure] at notCancelled

/-- An invitation that is not deleted is cancelled by the deletion of its recovery only. -/
theorem isOpen_of_recovery {invitation : MemoryInvitation}
    (notDeleted : invitation.isDeleted = false)
    (recovery : invitation.type = .shamirRecovery →
      ∃ recovery, org.invitedRecovery invitation = .ok recovery ∧ recovery.isDeleted = false) :
    IsOpen org invitation := by
  constructor
  · exact isCompleted_of_open notDeleted
  · unfold MemoryOrganization.isInvitationCancelled
    rw [isCancelled_of_open notDeleted]
    by_cases isRecovery : invitation.type = .shamirRecovery
    · obtain ⟨recovery, isFound, notDeleted⟩ := recovery isRecovery
      simp only [isRecovery, isFound]
      simp [bind, Except.bind, pure, Except.pure, notDeleted]
    · simp [isRecovery, pure, Except.pure]

theorem IsOpen.recovery {invitation : MemoryInvitation} (isOpen : IsOpen org invitation)
    (isRecovery : invitation.type = .shamirRecovery) :
    ∃ recovery, org.invitedRecovery invitation = .ok recovery ∧ recovery.isDeleted = false := by
  have notDeleted := isOpen.notDeleted
  obtain ⟨-, notCancelled⟩ := isOpen
  unfold MemoryOrganization.isInvitationCancelled at notCancelled
  rw [isCancelled_of_open notDeleted] at notCancelled
  simp only [isRecovery] at notCancelled
  cases found : org.invitedRecovery invitation with
  | error error => simp [found, bind, Except.bind] at notCancelled
  | ok recovery =>
    simp [found, bind, Except.bind, pure, Except.pure] at notCancelled
    exact ⟨recovery, rfl, notCancelled⟩

section Create
variable {isAskedFor : MemoryInvitation → Bool} {invitation : MemoryInvitation}

theorem reuseOrCreate_cases (isAskedFor : MemoryInvitation → Bool) (invitation : MemoryInvitation)
    (kept : KeptUnderToken org) :
    (∃ existing, org.invitations.get? existing.token = some existing ∧
      existing.isDeleted = false ∧ isAskedFor existing = true ∧
      org.reuseOrCreate isAskedFor invitation = (existing.token, org)) ∨
    (∀ token existing, org.invitations.get? token = some existing → existing.isDeleted = false →
      isAskedFor existing = false) ∧
      org.reuseOrCreate isAskedFor invitation = (invitation.token,
        { org with invitations := org.invitations.set invitation.token invitation }) := by
  unfold MemoryOrganization.reuseOrCreate
  cases search : org.invitations.values.find? fun existing =>
      !existing.isDeleted && isAskedFor existing with
  | some existing =>
    left
    have member := List.mem_of_find?_eq_some search
    have isMatch := List.find?_some search
    rw [Bool.and_eq_true, Bool.not_eq_true'] at isMatch
    obtain ⟨⟨token, value⟩, isItem, rfl⟩ := List.mem_map.mp member
    have found := Dict.get?_eq_some_iff.mpr isItem
    have same : value.token = token := kept token value found
    rw [← same] at found
    exact ⟨value, found, isMatch.1, isMatch.2, rfl⟩
  | none =>
    right
    constructor
    · intro token existing found isOpen
      have member : existing ∈ org.invitations.values :=
        List.mem_map.mpr ⟨_, Dict.get?_eq_some_iff.mp found, rfl⟩
      have noMatch := List.find?_eq_none.mp search existing member
      simpa [isOpen] using noMatch
    · rfl

theorem InvitationsKept.create (kept : InvitationsKept org)
    (isNew : ∀ token existing, org.invitations.get? token = some existing →
      existing.isDeleted = false → existing.type = invitation.type →
      existing.claimer ≠ invitation.claimer)
    (recovery : invitation.type = .shamirRecovery →
      ∃ recovery, org.invitedRecovery invitation = .ok recovery) :
    InvitationsKept
      { org with invitations := org.invitations.set invitation.token invitation } := by
  constructor
  · intro token found isFound
    rcases Dict.found_set rfl isFound with ⟨same, rfl⟩ | ⟨-, isFound⟩
    · exact same.symm
    · exact kept.token token found isFound
  · intro token token' found found' isFound isFound' isOpen isOpen' sameType sameClaimer
    rw [Dict.get?_set] at isFound isFound'
    split at isFound
    · rename_i first
      cases isFound
      split at isFound'
      · rename_i second
        exact first.trans second.symm
      · exact absurd sameClaimer.symm (isNew token' found' isFound' isOpen' sameType.symm)
    · split at isFound'
      · cases isFound'
        exact absurd sameClaimer (isNew token found isFound isOpen sameType)
      · exact kept.unique token token' found found' isFound isFound' isOpen isOpen' sameType
          sameClaimer
  · intro token found isFound isRecovery
    rcases Dict.found_set rfl isFound with ⟨-, rfl⟩ | ⟨-, isFound⟩
    · exact recovery isRecovery
    · exact kept.recovery token found isFound isRecovery

end Create

theorem InvitationsKept.delete (kept : InvitationsKept org) {token : InvitationToken}
    {invitation : MemoryInvitation} (found : org.invitations.get? token = some invitation)
    (reason : MemoryInvitationDeletedReason) :
    InvitationsKept (org.deleteInvitation token invitation reason) := by
  constructor
  · intro other value isFound
    rcases Dict.found_set rfl isFound with ⟨same, rfl⟩ | ⟨-, isFound⟩
    · rw [same]
      exact kept.token token invitation found
    · exact kept.token other value isFound
  · intro first second value value' isFirst isSecond isOpen isOpen' sameType sameClaimer
    rw [MemoryOrganization.deleteInvitation, Dict.get?_set] at isFirst isSecond
    split at isFirst
    · cases isFirst
      cases isOpen
    · split at isSecond
      · cases isSecond
        cases isOpen'
      · exact kept.unique first second value value' isFirst isSecond isOpen isOpen' sameType
          sameClaimer
  · intro other value isFound isRecovery
    rcases Dict.found_set rfl isFound with ⟨-, rfl⟩ | ⟨-, isFound⟩
    · exact kept.recovery token invitation found isRecovery
    · exact kept.recovery other value isFound isRecovery

section Recoveries
variable {invitation : MemoryInvitation} {recovery : MemoryShamirRecovery}

theorem invitedRecovery_ok (ok : org.invitedRecovery invitation = .ok recovery) :
    ∃ userId index, invitation.claimerUserId = some userId ∧
      invitation.shamirRecoveryIndex = some index ∧
      (org.recoveriesOf userId)[index]? = some recovery := by
  unfold MemoryOrganization.invitedRecovery at ok
  split at ok
  · rename_i userId index isUser isIndex
    split at ok
    · rename_i found isFound
      cases ok
      exact ⟨userId, index, isUser, isIndex, isFound⟩
    · cases ok
  · cases ok

theorem invitedRecovery_of {userId : UserID} {index : Nat}
    (isUser : invitation.claimerUserId = some userId)
    (isIndex : invitation.shamirRecoveryIndex = some index)
    (found : (org.recoveriesOf userId)[index]? = some recovery) :
    org.invitedRecovery invitation = .ok recovery := by
  unfold MemoryOrganization.recoveriesOf at found
  unfold MemoryOrganization.invitedRecovery
  simp only [isUser, isIndex, found]

/-- The recoveries that a change leaves, each in its place. -/
def RecoveriesKept (org org' : MemoryOrganization) : Prop :=
  ∀ (userId : UserID) (index : Nat) recovery, (org.recoveriesOf userId)[index]? = some recovery →
    ∃ recovery', (org'.recoveriesOf userId)[index]? = some recovery'

theorem InvitationsKept.recoveries (kept : InvitationsKept org)
    (same : org'.invitations = org.invitations) (recoveries : RecoveriesKept org org') :
    InvitationsKept org' := by
  constructor
  · intro token found isFound
    rw [same] at isFound
    exact kept.token token found isFound
  · intro token token' found found' isFound isFound'
    rw [same] at isFound isFound'
    exact kept.unique token token' found found' isFound isFound'
  · intro token found isFound isRecovery
    rw [same] at isFound
    obtain ⟨recovery, isInvited⟩ := kept.recovery token found isFound isRecovery
    obtain ⟨userId, index, isUser, isIndex, isPlaced⟩ := invitedRecovery_ok isInvited
    obtain ⟨recovery', isPlaced'⟩ := recoveries userId index recovery isPlaced
    exact ⟨recovery', invitedRecovery_of isUser isIndex isPlaced'⟩

theorem recoveriesOf_withSetup (userId other : UserID) (recovery : MemoryShamirRecovery) :
    (org.withSetup userId recovery).recoveriesOf other =
      if other = userId then org.recoveriesOf userId ++ [recovery] else org.recoveriesOf other := by
  unfold MemoryOrganization.withSetup
  change ((org.shamirRecoveries.set _ _).get? other).getD [] = _
  rw [Dict.get?_set]
  split
  · rfl
  · rfl

theorem recoveriesOf_withDeletion (userId other : UserID) (index : Nat)
    (setup : MemoryShamirRecovery) (certif : ShamirRecoveryDeletionCertificate) (raw : List Byte) :
    (org.withDeletion userId index setup certif raw).recoveriesOf other =
      if other = userId then
        (org.recoveriesOf userId).set index { setup with deletion := some (certif, raw) }
      else org.recoveriesOf other := by
  unfold MemoryOrganization.withDeletion
  change ((org.shamirRecoveries.set _ _).get? other).getD [] = _
  rw [Dict.get?_set]
  split
  · rfl
  · rfl

theorem withSetup_recovery {userId other : UserID} {index : Nat}
    {added : MemoryShamirRecovery} (found : (org.recoveriesOf other)[index]? = some recovery) :
    ((org.withSetup userId added).recoveriesOf other)[index]? = some recovery := by
  rw [recoveriesOf_withSetup]
  split
  · rename_i same
    rw [same] at found
    exact List.getElem?_append_left (List.getElem?_eq_some_iff.mp found).1 ▸ found
  · exact found

theorem withDeletion_recovery_of_ne {userId other : UserID} {index place : Nat}
    {setup : MemoryShamirRecovery} {certif : ShamirRecoveryDeletionCertificate} {raw : List Byte}
    (apart : other ≠ userId) (found : (org.recoveriesOf other)[place]? = some recovery) :
    ((org.withDeletion userId index setup certif raw).recoveriesOf other)[place]? =
      some recovery := by
  rw [recoveriesOf_withDeletion, if_neg apart]
  exact found

theorem withDeletion_recoveriesKept {userId : UserID} {index : Nat}
    {setup : MemoryShamirRecovery} {certif : ShamirRecoveryDeletionCertificate} {raw : List Byte} :
    RecoveriesKept org (org.withDeletion userId index setup certif raw) := by
  intro other place recovery found
  by_cases same : other = userId
  · rw [recoveriesOf_withDeletion, if_pos same]
    rw [same] at found
    have bound := (List.getElem?_eq_some_iff.mp found).1
    exact ⟨_, List.getElem?_eq_getElem (by simpa using bound)⟩
  · exact ⟨recovery, withDeletion_recovery_of_ne same found⟩

theorem checkShamirAuthor_ok {author : DeviceID} {userId : UserID}
    (ok : org.checkShamirAuthor author = .ok userId) :
    ∃ device, org.devices.get? author = some device ∧ device.cooked.userId = userId := by
  unfold MemoryOrganization.checkShamirAuthor at ok
  obtain ⟨_, -, ok⟩ := bind_eq_ok.mp ok
  split at ok
  · cases ok
  · rename_i device isDevice
    obtain ⟨_, -, ok⟩ := bind_eq_ok.mp ok
    cases ok
    exact ⟨device, isDevice, rfl⟩

theorem deleteShamir_ok {now : DateTime} {author : DeviceID} {key : VerifyKey}
    {certificate : Uploaded ShamirRecoveryDeletionCertificate}
    (ok : org.deleteShamir now author key certificate = .ok org') :
    ∃ device index setup certif raw, org.devices.get? author = some device ∧
      org' = org.withDeletion device.cooked.userId index setup certif raw := by
  unfold MemoryOrganization.deleteShamir at ok
  obtain ⟨userId, isAuthor, ok⟩ := bind_eq_ok.mp ok
  obtain ⟨deletion, -, ok⟩ := bind_eq_ok.mp ok
  obtain ⟨_, -, ok⟩ := bind_eq_ok.mp ok
  obtain ⟨device, isDevice, isUser⟩ := checkShamirAuthor_ok isAuthor
  cases isUser
  dsimp only at ok
  split at ok
  · cases ok
  · obtain ⟨_, -, ok⟩ := bind_eq_ok.mp ok
    obtain ⟨_, -, ok⟩ := bind_eq_ok.mp ok
    cases ok
    exact ⟨device, _, _, _, _, isDevice, rfl⟩

end Recoveries

section NewCall
variable {isAskedFor : MemoryInvitation → Bool} {invitation : MemoryInvitation}

/-- A creation looks for an invitation of the type and the claimer of the one it would create. -/
def AsksFor (isAskedFor : MemoryInvitation → Bool) (invitation : MemoryInvitation) : Prop :=
  ∀ existing, isAskedFor existing = true ↔
    existing.type = invitation.type ∧ existing.claimer = invitation.claimer

theorem reuseOrCreate_kept (kept : InvitationsKept org) (asks : AsksFor isAskedFor invitation)
    (recovery : invitation.type = .shamirRecovery →
      ∃ recovery, org.invitedRecovery invitation = .ok recovery) :
    InvitationsKept (org.reuseOrCreate isAskedFor invitation).2 := by
  rcases reuseOrCreate_cases isAskedFor invitation kept.token with
    ⟨existing, -, -, -, reused⟩ | ⟨none, created⟩
  · rw [reused]
    exact kept
  · rw [created]
    apply kept.create _ recovery
    intro token existing found isOpen sameType sameClaimer
    have isAsked := (asks existing).mpr ⟨sameType, sameClaimer⟩
    rw [none token existing found isOpen] at isAsked
    cases isAsked

theorem reuseOrCreate_open (kept : InvitationsKept org) (asks : AsksFor isAskedFor invitation)
    (notDeleted : invitation.isDeleted = false)
    (recovery : invitation.type = .shamirRecovery →
      ∃ recovery, org.invitedRecovery invitation = .ok recovery ∧ recovery.isDeleted = false)
    (notStale : ∀ token existing, org.invitations.get? token = some existing →
      existing.isDeleted = false → existing.type = invitation.type →
      existing.claimer = invitation.claimer → org.isInvitationCancelled existing ≠ .ok true) :
    ∃ found, (org.reuseOrCreate isAskedFor invitation).2.invitations.get?
        (org.reuseOrCreate isAskedFor invitation).1 = some found ∧
      IsOpen (org.reuseOrCreate isAskedFor invitation).2 found := by
  rcases reuseOrCreate_cases isAskedFor invitation kept.token with
    ⟨existing, found, existingOpen, isAsked, reused⟩ | ⟨-, created⟩
  · rw [reused]
    refine ⟨existing, found, isOpen_of_recovery existingOpen fun isRecovery => ?_⟩
    obtain ⟨sameType, sameClaimer⟩ := (asks existing).mp isAsked
    obtain ⟨recovery, isInvited⟩ := kept.recovery _ existing found isRecovery
    refine ⟨recovery, isInvited, ?_⟩
    have notStale := notStale _ existing found existingOpen sameType sameClaimer
    unfold MemoryOrganization.isInvitationCancelled at notStale
    rw [isCancelled_of_open existingOpen] at notStale
    simpa [isRecovery, isInvited, bind, Except.bind, pure, Except.pure] using notStale
  · rw [created]
    exact ⟨invitation, Dict.get?_set_self _ _ _, isOpen_of_recovery notDeleted recovery⟩

end NewCall

theorem asksFor_user (email : EmailAddress) (newToken : InvitationToken) :
    AsksFor (fun existing => existing.type = .user && existing.claimerEmail = some email)
      ⟨newToken, .user, some email, none, none, none, .empty⟩ := by
  intro existing
  cases isType : existing.type with
  | user => simp [MemoryInvitation.claimer, isType]
  | device => simp [isType]
  | shamirRecovery => simp [isType]

theorem asksFor_device (userId : UserID) (newToken : InvitationToken) :
    AsksFor (fun existing => existing.type = .device && existing.claimerUserId = some userId)
      ⟨newToken, .device, none, some userId, none, none, .empty⟩ := by
  intro existing
  cases isType : existing.type with
  | user => simp [isType]
  | device => simp [MemoryInvitation.claimer, isType]
  | shamirRecovery => simp [isType]

theorem asksFor_shamirRecovery (userId : UserID) (newToken : InvitationToken)
    (email : EmailAddress) (index : Nat) :
    AsksFor
      (fun existing => existing.type = .shamirRecovery && existing.claimerUserId = some userId)
      ⟨newToken, .shamirRecovery, some email, some userId, some index, none, .empty⟩ := by
  intro existing
  cases isType : existing.type with
  | user => simp [isType]
  | device => simp [isType]
  | shamirRecovery => simp [MemoryInvitation.claimer, isType]

/-- An accepted call for a recovery is for the last one, which is not deleted. -/
theorem newForShamirRecoveryCheck_ok {author : DeviceID} {claimerUserId : UserID}
    {claimer : MemoryUser} {index : Nat}
    (ok : org.newForShamirRecoveryCheck author claimerUserId = .ok (claimer, index)) :
    ∃ recovery, (org.recoveriesOf claimerUserId)[index]? = some recovery ∧
      recovery.isDeleted = false := by
  unfold MemoryOrganization.newForShamirRecoveryCheck at ok
  obtain ⟨⟨_, _⟩, -, ok⟩ := bind_eq_ok.mp ok
  dsimp only at ok
  split at ok
  · cases ok
  · split at ok
    · cases ok
    · rename_i recovery isLast
      obtain ⟨_, notDeleted, ok⟩ := bind_eq_ok.mp ok
      obtain ⟨_, -, ok⟩ := bind_eq_ok.mp ok
      cases ok
      exact ⟨recovery, isLast, refuse_eq_ok.mp notDeleted⟩

/-- The invitation of the call that sends its event and its email is open. -/
structure InviteInvariant (s : InviteServer) : Prop where
  kept : InvitationsKept s.org
  sending : ∀ token, s.sending = some token →
    ∃ invitation, s.org.invitations.get? token = some invitation ∧ IsOpen s.org invitation

theorem InviteInvariant.afterNew
    {outcome : Except NewInvitationBadOutcome (InvitationToken × MemoryOrganization)}
    (inv : InviteInvariant s)
    (accepted : ∀ result, outcome = .ok result → InvitationsKept result.2 ∧
      ∃ invitation, result.2.invitations.get? result.1 = some invitation ∧
        IsOpen result.2 invitation) :
    InviteInvariant (s.afterNew outcome) := by
  cases outcome with
  | error error => exact inv
  | ok result =>
    obtain ⟨kept, usable⟩ := accepted result rfl
    constructor
    · exact kept
    · intro other isSending
      cases isSending
      exact usable

theorem newForUser_invariant (inv : InviteInvariant s) (author : DeviceID)
    (email : EmailAddress) (newToken : InvitationToken) :
    InviteInvariant (s.afterNew (s.org.newForUser author email newToken)) := by
  apply inv.afterNew
  intro result ok
  unfold MemoryOrganization.newForUser at ok
  obtain ⟨_, -, ok⟩ := bind_eq_ok.mp ok
  cases ok
  have asks := asksFor_user email newToken
  constructor
  · exact reuseOrCreate_kept inv.kept asks (fun isRecovery => by cases isRecovery)
  · apply reuseOrCreate_open inv.kept asks rfl (fun isRecovery => by cases isRecovery)
    intro _ existing _ notDeleted sameType _ cancelled
    have isUser : existing.type = .user := sameType
    have isOpen : IsOpen s.org existing := isOpen_of_recovery notDeleted
      (fun isRecovery => by rw [isUser] at isRecovery; cases isRecovery)
    rw [isOpen.2] at cancelled
    cases cancelled

theorem newForDevice_invariant (inv : InviteInvariant s) (author : DeviceID)
    (newToken : InvitationToken) :
    InviteInvariant (s.afterNew (s.org.newForDevice author newToken)) := by
  apply inv.afterNew
  intro result ok
  unfold MemoryOrganization.newForDevice at ok
  obtain ⟨⟨userId, _⟩, -, ok⟩ := bind_eq_ok.mp ok
  cases ok
  have asks := asksFor_device userId newToken
  constructor
  · exact reuseOrCreate_kept inv.kept asks (fun isRecovery => by cases isRecovery)
  · apply reuseOrCreate_open inv.kept asks rfl (fun isRecovery => by cases isRecovery)
    intro _ existing _ notDeleted sameType _ cancelled
    have isDevice : existing.type = .device := sameType
    have isOpen : IsOpen s.org existing := isOpen_of_recovery notDeleted
      (fun isRecovery => by rw [isDevice] at isRecovery; cases isRecovery)
    rw [isOpen.2] at cancelled
    cases cancelled

theorem newForShamirRecovery_invariant (inv : InviteInvariant s) {author : DeviceID}
    {claimerUserId : UserID} {newToken : InvitationToken}
    (undisturbed : Undisturbed s (.newForShamirRecovery author claimerUserId newToken)) :
    InviteInvariant
      (s.afterNew (s.org.newForShamirRecovery author claimerUserId newToken)) := by
  apply inv.afterNew
  intro result ok
  unfold MemoryOrganization.newForShamirRecovery at ok
  obtain ⟨⟨claimer, index⟩, checked, ok⟩ := bind_eq_ok.mp ok
  cases ok
  have asks := asksFor_shamirRecovery claimerUserId newToken claimer.email index
  obtain ⟨recovery, isPlaced, notDeleted⟩ := newForShamirRecoveryCheck_ok checked
  have isInvited : s.org.invitedRecovery ⟨newToken, .shamirRecovery, some claimer.email,
      some claimerUserId, some index, none, .empty⟩ = .ok recovery :=
    invitedRecovery_of rfl rfl isPlaced
  constructor
  · exact reuseOrCreate_kept inv.kept asks fun _ => ⟨recovery, isInvited⟩
  · apply reuseOrCreate_open inv.kept asks rfl fun _ => ⟨recovery, isInvited, notDeleted⟩
    intro other existing found isKept sameType sameClaimer
    apply undisturbed _ checked other existing found isKept sameType
    have isRecovery : existing.type = .shamirRecovery := sameType
    simpa [MemoryInvitation.claimer, isRecovery] using sameClaimer

theorem InviteInvariant.delete (inv : InviteInvariant s) {token : InvitationToken}
    {invitation : MemoryInvitation} (found : s.org.invitations.get? token = some invitation)
    (notSending : s.sending ≠ some token) (reason : MemoryInvitationDeletedReason) :
    InviteInvariant { s with org := s.org.deleteInvitation token invitation reason } := by
  constructor
  · exact inv.kept.delete found reason
  · intro other isSending
    obtain ⟨sent, isSent, isOpen⟩ := inv.sending other isSending
    have apart : other ≠ token := by
      intro same
      rw [same] at isSending
      exact notSending isSending
    refine ⟨sent, ?_, isOpen⟩
    rw [MemoryOrganization.deleteInvitation, Dict.get?_set_of_ne apart]
    exact isSent

theorem cancel_invariant (inv : InviteInvariant s) {author : DeviceID}
    {token : InvitationToken} (undisturbed : Undisturbed s (.cancel author token)) :
    InviteInvariant { s with org := (s.org.cancelInvitation author token).2 } := by
  unfold MemoryOrganization.cancelInvitation
  cases checked : s.org.cancelCheck author token with
  | error reply => exact inv
  | ok invitation =>
    apply inv.delete (cancelCheck_ok checked).1
    intro isSending
    exact undisturbed isSending invitation checked

theorem complete_invariant (inv : InviteInvariant s) {author : DeviceID}
    {token : InvitationToken} (undisturbed : Undisturbed s (.complete author token)) :
    InviteInvariant { s with org := (s.org.completeInvitation author token).2 } := by
  unfold MemoryOrganization.completeInvitation
  cases checked : s.org.completeCheck author token with
  | error reply => exact inv
  | ok invitation =>
    apply inv.delete (completeCheck_ok checked).1
    intro isSending
    exact undisturbed isSending invitation checked

/-- A change of the recoveries that leaves those of the invitation of the call that sends. -/
theorem InviteInvariant.recoveries (inv : InviteInvariant s)
    (same : org'.invitations = s.org.invitations) (kept : RecoveriesKept s.org org')
    (sent : ∀ token invitation userId (index : Nat) recovery, s.sending = some token →
      s.org.invitations.get? token = some invitation → invitation.type = .shamirRecovery →
      invitation.claimerUserId = some userId →
      (s.org.recoveriesOf userId)[index]? = some recovery →
      (org'.recoveriesOf userId)[index]? = some recovery) :
    InviteInvariant { s with org := org' } := by
  constructor
  · exact inv.kept.recoveries same kept
  · intro token isSending
    obtain ⟨invitation, found, isOpen⟩ := inv.sending token isSending
    refine ⟨invitation, by rw [same]; exact found, ?_⟩
    apply isOpen_of_recovery isOpen.notDeleted
    intro isRecovery
    obtain ⟨recovery, isInvited, notDeleted⟩ := isOpen.recovery isRecovery
    obtain ⟨userId, index, isUser, isIndex, isPlaced⟩ := invitedRecovery_ok isInvited
    have isPlaced := sent token invitation userId index recovery isSending found isRecovery isUser
      isPlaced
    exact ⟨recovery, invitedRecovery_of isUser isIndex isPlaced, notDeleted⟩

theorem setupShamir_invariant (inv : InviteInvariant s) (now : DateTime) (author : DeviceID)
    (key : VerifyKey) (brief : Uploaded ShamirRecoveryBriefCertificate)
    (shares : List (Uploaded ShamirRecoveryShareCertificate)) :
    InviteInvariant (s.afterShamir (s.org.setupShamir now author key brief shares)) := by
  cases ok : s.org.setupShamir now author key brief shares with
  | error error => exact inv
  | ok org' =>
    cases setupShamir_effect ok with
    | setup =>
      apply inv.recoveries
      · rfl
      · intro userId index recovery isPlaced
        exact ⟨recovery, withSetup_recovery isPlaced⟩
      · intro _ _ _ _ _ _ _ _ _ isPlaced
        exact withSetup_recovery isPlaced

theorem deleteShamir_invariant (inv : InviteInvariant s) {now : DateTime} {author : DeviceID}
    {key : VerifyKey} {certificate : Uploaded ShamirRecoveryDeletionCertificate}
    (undisturbed : Undisturbed s (.deleteShamir now author key certificate)) :
    InviteInvariant (s.afterShamir (s.org.deleteShamir now author key certificate)) := by
  cases ok : s.org.deleteShamir now author key certificate with
  | error error => exact inv
  | ok org' =>
    obtain ⟨device, index, setup, certif, raw, isDevice, rfl⟩ := deleteShamir_ok ok
    apply inv.recoveries
    · rfl
    · exact withDeletion_recoveriesKept
    · intro token invitation userId place recovery isSending found isRecovery isUser isPlaced
      apply withDeletion_recovery_of_ne _ isPlaced
      intro same
      rw [same] at isUser
      exact undisturbed token invitation device isSending found isRecovery isDevice isUser _ ok

theorem InviteInvariant.step {request : InviteRequest} (inv : InviteInvariant s)
    (undisturbed : Undisturbed s request) (taken : s.Step request s') : InviteInvariant s' := by
  obtain ⟨-, rfl⟩ := taken
  cases request with
  | newForUser author email newToken => exact newForUser_invariant inv author email newToken
  | newForDevice author newToken => exact newForDevice_invariant inv author newToken
  | newForShamirRecovery author claimerUserId newToken =>
    exact newForShamirRecovery_invariant inv undisturbed
  | returns token => exact ⟨inv.kept, fun other isSending => by cases isSending⟩
  | cancel author token => exact cancel_invariant inv undisturbed
  | complete author token => exact complete_invariant inv undisturbed
  | setupShamir now author key brief shares =>
    exact setupShamir_invariant inv now author key brief shares
  | deleteShamir now author key certificate => exact deleteShamir_invariant inv undisturbed

/-- A greeter who is allowed and the claimer can start an attempt. -/
def CanStart (org : MemoryOrganization) (token : InvitationToken)
    (invitation : MemoryInvitation) : Prop :=
  (∀ author greeter user, org.greeterAuthor author greeter = .ok user →
    org.isGreeterAllowed invitation user = .ok true →
    org.greeterStartCheck author greeter token = .ok invitation) ∧
  ∀ greeter user, org.isExpired = false → org.users.get? greeter = some user →
    user.isRevoked = false → org.isGreeterAllowed invitation user = .ok true →
    org.claimerStartCheck token greeter = .ok invitation

theorem canStart_of_open {token : InvitationToken} {invitation : MemoryInvitation}
    (found : org.invitations.get? token = some invitation) (isOpen : IsOpen org invitation) :
    CanStart org token invitation := by
  have isFound : org.findInvitation token = .ok invitation := by
    simp [MemoryOrganization.findInvitation, found]
  have checked : org.checkInvitationOpen invitation = .ok () := by
    obtain ⟨notCompleted, notCancelled⟩ := isOpen
    simp [MemoryOrganization.checkInvitationOpen, notCompleted, notCancelled, orRaise, refuse, bind,
      Except.bind]
  constructor
  · intro author greeter user isAuthor allowed
    simp [MemoryOrganization.greeterStartCheck, isAuthor, isFound, checked,
      MemoryOrganization.checkGreeterAllowed, allowed, orRaise, refuse, bind, Except.bind, pure,
      Except.pure]
  · intro greeter user notExpired isUser notRevoked allowed
    simp [MemoryOrganization.claimerStartCheck, notExpired, isUser, notRevoked, isFound, checked,
      MemoryOrganization.checkGreeterAllowed, allowed, orRaise, refuse, bind, Except.bind, pure,
      Except.pure]

/-- The invitations as they should be: the one that a call returns is open, and a claimer has at
    most one of a type that is. -/
structure InvitationsUsable (s : InviteServer) : Prop where
  usable : ∀ token s', s.Step (.returns token) s' → ∃ invitation,
    s'.org.invitations.get? token = some invitation ∧ IsOpen s'.org invitation ∧
    CanStart s'.org token invitation
  unique : ∀ token token' invitation invitation', s.org.invitations.get? token = some invitation →
    s.org.invitations.get? token' = some invitation' → IsOpen s.org invitation →
    IsOpen s.org invitation' → invitation.type = invitation'.type →
    invitation.claimer = invitation'.claimer → token = token'

/-- In the runs where no recovery invitation is stale and no call is disturbed while it sends. -/
theorem invitations_usable {start : InviteServer} (fresh : start.org.invitations = .empty)
    (idle : start.sending = none) (run : Run InviteServer.Step Undisturbed start s) :
    InvitationsUsable s := by
  have inv : InviteInvariant s := by
    apply run.keeps _ fun _ _ _ inv undisturbed taken => inv.step undisturbed taken
    constructor
    · constructor
      · intro token invitation found
        rw [fresh] at found
        cases found
      · intro token token' invitation invitation' found
        rw [fresh] at found
        cases found
      · intro token invitation found
        rw [fresh] at found
        cases found
    · intro token isSending
      rw [idle] at isSending
      cases isSending
  constructor
  · intro token s' taken
    obtain ⟨isSending, rfl⟩ := taken
    obtain ⟨invitation, found, isOpen⟩ := inv.sending token isSending
    exact ⟨invitation, found, isOpen, canStart_of_open found isOpen⟩
  · intro token token' invitation invitation' found found' isOpen isOpen' sameType sameClaimer
    exact inv.kept.unique token token' invitation invitation' found found'
      isOpen.notDeleted isOpen'.notDeleted sameType sameClaimer

/-- Alice and Bob, without any recovery. -/
def aliceAndBob : MemoryOrganization where
  isExpired := false
  activeUsersLimit := none
  sequesterAuthority := none
  sequesterServices := none
  users := (Dict.empty.set ⟨1⟩
      ⟨⟨.root, 0, ⟨1⟩, .admin⟩, ⟨"alice@example.com"⟩, [], [], [], none⟩).set ⟨2⟩
    ⟨⟨.root, 0, ⟨2⟩, .standard⟩, ⟨"bob@example.com"⟩, [], [], [], none⟩
  devices := (Dict.empty.set ⟨1⟩ ⟨⟨.root, 0, ⟨1⟩, ⟨1⟩, ⟨1⟩⟩, [], []⟩).set ⟨2⟩
    ⟨⟨.root, 0, ⟨2⟩, ⟨2⟩, ⟨2⟩⟩, [], []⟩
  invitations := .empty
  greetingAttempts := .empty
  realms := .empty
  atomLists := []
  shamirRecoveries := .empty
  perTopicLastTimestamp := fun _ => none

/-- Alice sets up a recovery with one share, for Bob. -/
def aliceSetsUp (timestamp : DateTime) : InviteRequest :=
  .setupShamir timestamp ⟨1⟩ ⟨1⟩
    ⟨[], .certificate ⟨⟨1⟩, timestamp, ⟨1⟩, 1, [(⟨2⟩, 1)]⟩ ⟨1⟩⟩
    [⟨[], .certificate ⟨⟨1⟩, timestamp, ⟨1⟩, ⟨2⟩⟩ ⟨1⟩⟩]

def aliceDeletes (timestamp setupTimestamp : DateTime) : InviteRequest :=
  .deleteShamir timestamp ⟨1⟩ ⟨1⟩
    ⟨[], .certificate ⟨⟨1⟩, timestamp, setupTimestamp, ⟨1⟩, {⟨2⟩}⟩ ⟨1⟩⟩

def aliceHasSetUp : InviteServer :=
  InviteServer.after ⟨aliceAndBob, none⟩ (aliceSetsUp 1)

def bobInvites : InviteServer :=
  aliceHasSetUp.after (.newForShamirRecovery ⟨2⟩ ⟨1⟩ ⟨7⟩)

def aliceHasSetUpAgain : InviteServer :=
  ((bobInvites.after (.returns ⟨7⟩)).after (aliceDeletes 2 1)).after (aliceSetsUp 3)

def bobInvitesAgain : InviteServer :=
  aliceHasSetUpAgain.after (.newForShamirRecovery ⟨2⟩ ⟨1⟩ ⟨8⟩)

theorem invitations_usable_of_bob :
    InvitationsUsable bobInvites ∧ bobInvites.sending = some ⟨7⟩ := by
  constructor
  · have fresh : (⟨aliceAndBob, none⟩ : InviteServer).org.invitations = .empty := rfl
    apply invitations_usable fresh rfl
    apply Run.step (s := aliceHasSetUp) (t := .newForShamirRecovery ⟨2⟩ ⟨1⟩ ⟨7⟩)
    · exact Run.step (t := aliceSetsUp 1) .start trivial ⟨trivial, rfl⟩
    · intro checked _ token invitation found
      have none : aliceHasSetUp.org.invitations.items = [] := by decide +kernel
      have member := Dict.get?_eq_some_iff.mp found
      rw [none] at member
      cases member
    · have idle : aliceHasSetUp.sending = none := by decide +kernel
      exact ⟨idle, rfl⟩
  · decide +kernel

/-- A setup takes the place of a deleted one, and the invitation for the deleted one is given
    again. -/
theorem stale_invitation_given :
    ¬ ∀ start s : InviteServer, start.org.invitations = .empty → start.sending = none →
      Run InviteServer.Step (fun _ _ => True) start s → InvitationsUsable s := by
  intro claim
  have idle : aliceHasSetUp.sending = none := by decide +kernel
  have sends : bobInvites.sending = some ⟨7⟩ := by decide +kernel
  have idleAgain : aliceHasSetUpAgain.sending = none := by decide +kernel
  have sendsAgain : bobInvitesAgain.sending = some ⟨7⟩ := by decide +kernel
  have run : Run InviteServer.Step (fun _ _ => True) ⟨aliceAndBob, none⟩ bobInvitesAgain := by
    apply Run.step (t := .newForShamirRecovery ⟨2⟩ ⟨1⟩ ⟨8⟩) _ trivial ⟨idleAgain, rfl⟩
    apply Run.step (t := aliceSetsUp 3) _ trivial ⟨trivial, rfl⟩
    apply Run.step (t := aliceDeletes 2 1) _ trivial ⟨trivial, rfl⟩
    apply Run.step (t := .returns ⟨7⟩) _ trivial ⟨sends, rfl⟩
    apply Run.step (t := .newForShamirRecovery ⟨2⟩ ⟨1⟩ ⟨7⟩) _ trivial ⟨idle, rfl⟩
    exact Run.step (t := aliceSetsUp 1) .start trivial ⟨trivial, rfl⟩
  have usable := (claim _ _ rfl rfl run).usable ⟨7⟩ _ ⟨sendsAgain, rfl⟩
  obtain ⟨invitation, found, ⟨-, notCancelled⟩, -⟩ := usable
  have found : bobInvitesAgain.org.invitations.get? ⟨7⟩ = some invitation := found
  have notCancelled : bobInvitesAgain.org.isInvitationCancelled invitation = .ok false :=
    notCancelled
  have cancelled : (bobInvitesAgain.org.invitations.get? ⟨7⟩).map
      (fun invitation => (bobInvitesAgain.org.isInvitationCancelled invitation).toOption) =
        some (some true) := by
    decide +kernel
  rw [found, Option.map_some, notCancelled] at cancelled
  cases cancelled

end ParsecCloud.Server

import ParsecCloud.Server.Datamodel

/- Greeting attempts of an invitation (memory/datamodel.py and memory/invite.py). A call does not
   wait between its checks and its writes, so that it is a single step of the server. -/
namespace ParsecCloud.Server
open Certif

inductive StepOutcome where
  | mismatch
  | notReady
  | tooAdvanced
  deriving DecidableEq

/-- The step of a party, over the steps it has recorded and those of the other party. -/
def recordStep (own other : List (List Byte)) (index : Nat) (payload : List Byte) :
    List (List Byte) × Except StepOutcome (List Byte) :=
  if own[index]?.any fun recorded => recorded ≠ payload then (own, .error .mismatch)
  else if index > own.length || index > other.length then (own, .error .tooAdvanced)
  else
    let own := if index = own.length then own ++ [payload] else own
    match other[index]? with
    | none => (own, .error .notReady)
    | some data => (own, .ok data)

namespace MemoryGreetingAttempt

def isActive (attempt : MemoryGreetingAttempt) : Bool := attempt.cancelledReason.isNone

def greeterCancel (now : DateTime) (reason : CancelledGreetingAttemptReason)
    (attempt : MemoryGreetingAttempt) : MemoryGreetingAttempt :=
  { attempt with cancelledReason := some (.greeter, reason, now) }

def claimerCancel (now : DateTime) (reason : CancelledGreetingAttemptReason)
    (attempt : MemoryGreetingAttempt) : MemoryGreetingAttempt :=
  { attempt with cancelledReason := some (.claimer, reason, now) }

def greeterJoinOrCancel (now : DateTime) (attempt : MemoryGreetingAttempt) :
    MemoryGreetingAttempt :=
  match attempt.greeterJoined with
  | none => { attempt with greeterJoined := some now }
  | some _ => attempt.greeterCancel now .automaticallyCancelled

def claimerJoinOrCancel (now : DateTime) (attempt : MemoryGreetingAttempt) :
    MemoryGreetingAttempt :=
  match attempt.claimerJoined with
  | none => { attempt with claimerJoined := some now }
  | some _ => attempt.claimerCancel now .automaticallyCancelled

def greeterStep (index : Nat) (payload : List Byte) (attempt : MemoryGreetingAttempt) :
    MemoryGreetingAttempt × Except StepOutcome (List Byte) :=
  let (steps, outcome) := recordStep attempt.greeterSteps attempt.claimerSteps index payload
  ({ attempt with greeterSteps := steps }, outcome)

def claimerStep (index : Nat) (payload : List Byte) (attempt : MemoryGreetingAttempt) :
    MemoryGreetingAttempt × Except StepOutcome (List Byte) :=
  let (steps, outcome) := recordStep attempt.claimerSteps attempt.greeterSteps index payload
  ({ attempt with claimerSteps := steps }, outcome)

end MemoryGreetingAttempt

inductive InviteBadOutcome where
  | organizationExpired
  | authorNotFound
  | authorRevoked
  | authorNotAllowed
  | greeterNotFound
  | greeterRevoked
  | greeterNotAllowed
  | invitationNotFound
  | invitationCompleted
  | invitationAlreadyCompleted
  | invitationCancelled
  | invitationAlreadyCancelled
  | greetingAttemptNotFound
  | greetingAttemptNotJoined
  | stepMismatch
  | stepTooAdvanced
  deriving DecidableEq

inductive Reply where
  | greetingAttempt (id : GreetingAttemptID)
  | none
  | data (bytes : List Byte)
  | notReady
  | greetingAttemptCancelled (origin : GreeterOrClaimer) (reason : CancelledGreetingAttemptReason)
      (timestamp : DateTime)
  | bad (outcome : InviteBadOutcome)
  | raised (error : Raised)

def orRaise {α : Type} : Except Raised α → Except Reply α
  | .ok value => .ok value
  | .error error => .error (.raised error)

namespace MemoryOrganization
variable (org : MemoryOrganization)

/-- The recovery that the invitation is for. -/
def invitedRecovery (invitation : MemoryInvitation) : Except Raised MemoryShamirRecovery :=
  match invitation.claimerUserId, invitation.shamirRecoveryIndex with
  | some claimerUserId, some index =>
    match ((org.shamirRecoveries.get? claimerUserId).getD [])[index]? with
    | some recovery => .ok recovery
    | none => .error .indexError
  | _, _ => .error .assertionError

def isInvitationCancelled (invitation : MemoryInvitation) : Except Raised Bool := do
  if invitation.isCancelled then return true
  else if invitation.type = .shamirRecovery then
    return (← org.invitedRecovery invitation).isDeleted
  else return false

def isGreeterAllowed (invitation : MemoryInvitation) (greeter : MemoryUser) : Except Raised Bool :=
  match invitation.type with
  | .device =>
    match invitation.claimerUserId with
    | none => .error .assertionError
    | some claimerUserId => .ok (claimerUserId = greeter.cooked.userId)
  | .user => .ok (greeter.currentProfile = .admin)
  | .shamirRecovery => do
    return ((← org.invitedRecovery invitation).shares.get? greeter.cooked.userId).isSome

/-- The author of a call that a greeter makes. -/
def greeterAuthor (author : DeviceID) (greeter : UserID) : Except Reply MemoryUser := do
  refuse org.isExpired (.bad .organizationExpired)
  match org.devices.get? author with
  | none => throw (.bad .authorNotFound)
  | some device =>
    refuse (device.cooked.userId ≠ greeter) (.raised .assertionError)
    match org.users.get? greeter with
    | none => throw (.bad .authorNotFound)
    | some user =>
      refuse user.isRevoked (.bad .authorRevoked)
      return user

def checkInvitationOpen (invitation : MemoryInvitation) : Except Reply Unit := do
  refuse invitation.isCompleted (.bad .invitationCompleted)
  refuse (← orRaise (org.isInvitationCancelled invitation)) (.bad .invitationCancelled)

def checkGreeterAllowed (invitation : MemoryInvitation) (greeter : MemoryUser)
    (otherwise : InviteBadOutcome) : Except Reply Unit := do
  refuse (!(← orRaise (org.isGreeterAllowed invitation greeter))) (.bad otherwise)

/-- The attempt and its invitation. -/
def findAttempt (id : GreetingAttemptID) :
    Except Reply (MemoryGreetingAttempt × MemoryInvitation) :=
  match org.greetingAttempts.get? id with
  | none => .error (.bad .greetingAttemptNotFound)
  | some attempt =>
    match org.invitations.get? attempt.token with
    | none => .error (.bad .greetingAttemptNotFound)
    | some invitation => .ok (attempt, invitation)

def checkActive (attempt : MemoryGreetingAttempt) : Except Reply Unit :=
  match attempt.cancelledReason with
  | some (origin, reason, timestamp) => .error (.greetingAttemptCancelled origin reason timestamp)
  | none => .ok ()

/-- The attempt that a greeter acts on, after the checks of the call. -/
def greeterAttempt (author : DeviceID) (greeter : UserID) (id : GreetingAttemptID) :
    Except Reply MemoryGreetingAttempt := do
  let user ← org.greeterAuthor author greeter
  let (attempt, invitation) ← org.findAttempt id
  refuse (attempt.greeterId ≠ greeter) (.bad .greetingAttemptNotFound)
  org.checkInvitationOpen invitation
  org.checkGreeterAllowed invitation user .authorNotAllowed
  checkActive attempt
  refuse attempt.greeterJoined.isNone (.bad .greetingAttemptNotJoined)
  return attempt

/-- The attempt that a claimer acts on, after the checks of the call. -/
def claimerAttempt (token : InvitationToken) (id : GreetingAttemptID) :
    Except Reply MemoryGreetingAttempt := do
  refuse org.isExpired (.bad .organizationExpired)
  let (attempt, invitation) ← org.findAttempt id
  refuse (attempt.token ≠ token) (.bad .greetingAttemptNotFound)
  match org.users.get? attempt.greeterId with
  | none => throw (.raised .keyError)
  | some user =>
    refuse user.isRevoked (.bad .greeterRevoked)
    org.checkInvitationOpen invitation
    org.checkGreeterAllowed invitation user .greeterNotAllowed
    checkActive attempt
    refuse attempt.claimerJoined.isNone (.bad .greetingAttemptNotJoined)
    return attempt

/-- An attempt is changed in place. -/
def putAttempt (id : GreetingAttemptID) (attempt : MemoryGreetingAttempt) : MemoryOrganization :=
  { org with greetingAttempts := org.greetingAttempts.set id attempt }

def greeterCancelGreetingAttempt (now : DateTime) (author : DeviceID) (greeter : UserID)
    (id : GreetingAttemptID) (reason : CancelledGreetingAttemptReason) :
    Reply × MemoryOrganization :=
  match org.greeterAttempt author greeter id with
  | .error reply => (reply, org)
  | .ok attempt => (.none, org.putAttempt id (attempt.greeterCancel now reason))

def claimerCancelGreetingAttempt (now : DateTime) (token : InvitationToken)
    (id : GreetingAttemptID) (reason : CancelledGreetingAttemptReason) :
    Reply × MemoryOrganization :=
  match org.claimerAttempt token id with
  | .error reply => (reply, org)
  | .ok attempt => (.none, org.putAttempt id (attempt.claimerCancel now reason))

def stepReply : Except StepOutcome (List Byte) → Reply
  | .error .mismatch => .bad .stepMismatch
  | .error .tooAdvanced => .bad .stepTooAdvanced
  | .error .notReady => .notReady
  | .ok data => .data data

def greeterStep (author : DeviceID) (greeter : UserID) (id : GreetingAttemptID) (stepIndex : Nat)
    (greeterData : List Byte) : Reply × MemoryOrganization :=
  match org.greeterAttempt author greeter id with
  | .error reply => (reply, org)
  | .ok attempt =>
    let (attempt, outcome) := attempt.greeterStep stepIndex greeterData
    (stepReply outcome, org.putAttempt id attempt)

def claimerStep (token : InvitationToken) (id : GreetingAttemptID) (stepIndex : Nat)
    (claimerData : List Byte) : Reply × MemoryOrganization :=
  match org.claimerAttempt token id with
  | .error reply => (reply, org)
  | .ok attempt =>
    let (attempt, outcome) := attempt.claimerStep stepIndex claimerData
    (stepReply outcome, org.putAttempt id attempt)

/-- The first active attempt of a list. -/
def firstActive : List GreetingAttemptID → Except Raised (Option MemoryGreetingAttempt)
  | [] => .ok none
  | id :: rest =>
    match org.greetingAttempts.get? id with
    | none => .error .keyError
    | some attempt => if attempt.isActive then .ok (some attempt) else firstActive rest

end MemoryOrganization

/-- What a session works on. -/
structure SessionState where
  org : MemoryOrganization
  session : MemoryGreetingSession

namespace SessionState

/-- The new attempt is used when no attempt is active. -/
def getActiveGreetingAttempt (s : SessionState) (newId : GreetingAttemptID) :
    SessionState × Except Raised MemoryGreetingAttempt :=
  match s.org.firstActive s.session.greetingAttempts with
  | .error error => (s, .error error)
  | .ok (some attempt) => (s, .ok attempt)
  | .ok none =>
    let attempt : MemoryGreetingAttempt :=
      ⟨newId, s.session.token, s.session.greeterId, none, none, none, [], []⟩
    (⟨s.org.putAttempt newId attempt,
      { s.session with greetingAttempts := s.session.greetingAttempts ++ [newId] }⟩, .ok attempt)

/-- A party joins the active attempt, or cancels it and joins another one. -/
def newAttempt (joinOrCancel : MemoryGreetingAttempt → MemoryGreetingAttempt) (s : SessionState)
    (newIds : GreetingAttemptID × GreetingAttemptID) :
    SessionState × Except Raised MemoryGreetingAttempt :=
  match s.getActiveGreetingAttempt newIds.1 with
  | (s, .error error) => (s, .error error)
  | (s, .ok attempt) =>
    let attempt := joinOrCancel attempt
    let s : SessionState := { s with org := s.org.putAttempt attempt.greetingAttempt attempt }
    if attempt.isActive then (s, .ok attempt)
    else
      match s.getActiveGreetingAttempt newIds.2 with
      | (s, .error error) => (s, .error error)
      | (s, .ok attempt) =>
        let attempt := joinOrCancel attempt
        let s : SessionState := { s with org := s.org.putAttempt attempt.greetingAttempt attempt }
        if attempt.isActive then (s, .ok attempt) else (s, .error .assertionError)

def newAttemptForGreeter (now : DateTime) :=
  newAttempt (MemoryGreetingAttempt.greeterJoinOrCancel now)

def newAttemptForClaimer (now : DateTime) :=
  newAttempt (MemoryGreetingAttempt.claimerJoinOrCancel now)

end SessionState

def MemoryInvitation.getGreetingSession (invitation : MemoryInvitation) (userId : UserID) :
    MemoryGreetingSession :=
  (invitation.greetingSessions.get? userId).getD ⟨invitation.token, userId, []⟩

namespace MemoryOrganization
variable (org : MemoryOrganization)

/-- The end of a start: the session is changed in place. -/
def startAttempt (newAttempt : SessionState → SessionState × Except Raised MemoryGreetingAttempt)
    (token : InvitationToken) (invitation : MemoryInvitation) (greeter : UserID) :
    Reply × MemoryOrganization :=
  let (s, outcome) := newAttempt ⟨org, invitation.getGreetingSession greeter⟩
  let invitation := { invitation with
    greetingSessions := invitation.greetingSessions.set greeter s.session }
  let org := { s.org with invitations := s.org.invitations.set token invitation }
  match outcome with
  | .error error => (.raised error, org)
  | .ok attempt => (.greetingAttempt attempt.greetingAttempt, org)

def findInvitation (token : InvitationToken) : Except Reply MemoryInvitation :=
  match org.invitations.get? token with
  | none => .error (.bad .invitationNotFound)
  | some invitation => .ok invitation

def greeterStartCheck (author : DeviceID) (greeter : UserID) (token : InvitationToken) :
    Except Reply MemoryInvitation := do
  let user ← org.greeterAuthor author greeter
  let invitation ← org.findInvitation token
  org.checkInvitationOpen invitation
  org.checkGreeterAllowed invitation user .authorNotAllowed
  return invitation

def claimerStartCheck (token : InvitationToken) (greeter : UserID) :
    Except Reply MemoryInvitation := do
  refuse org.isExpired (.bad .organizationExpired)
  match org.users.get? greeter with
  | none => throw (.bad .greeterNotFound)
  | some user =>
    refuse user.isRevoked (.bad .greeterRevoked)
    let invitation ← org.findInvitation token
    org.checkInvitationOpen invitation
    org.checkGreeterAllowed invitation user .greeterNotAllowed
    return invitation

def greeterStartGreetingAttempt (now : DateTime) (author : DeviceID) (greeter : UserID)
    (token : InvitationToken) (newIds : GreetingAttemptID × GreetingAttemptID) :
    Reply × MemoryOrganization :=
  match org.greeterStartCheck author greeter token with
  | .error reply => (reply, org)
  | .ok invitation =>
    org.startAttempt (SessionState.newAttemptForGreeter now · newIds) token invitation greeter

def claimerStartGreetingAttempt (now : DateTime) (token : InvitationToken) (greeter : UserID)
    (newIds : GreetingAttemptID × GreetingAttemptID) : Reply × MemoryOrganization :=
  match org.claimerStartCheck token greeter with
  | .error reply => (reply, org)
  | .ok invitation =>
    org.startAttempt (SessionState.newAttemptForClaimer now · newIds) token invitation greeter

/-- The author of a call that ends an invitation. -/
def endAuthor (author : DeviceID) : Except Reply MemoryUser := do
  refuse org.isExpired (.bad .organizationExpired)
  match org.devices.get? author with
  | none => throw (.bad .authorNotFound)
  | some device =>
    match org.users.get? device.cooked.userId with
    | none => throw (.bad .authorNotFound)
    | some user =>
      refuse user.isRevoked (.bad .authorRevoked)
      return user

/-- Only the greeter or the claimer ends the invitation. -/
def checkGreeterOrClaimer (invitation : MemoryInvitation) (author : MemoryUser) :
    Except Reply Unit := do
  if ← orRaise (org.isGreeterAllowed invitation author) then return ()
  else
    match invitation.type with
    | .user =>
      match invitation.claimerEmail with
      | none => throw (.raised .assertionError)
      | some claimerEmail =>
        refuse (claimerEmail ≠ author.email) (.bad .authorNotAllowed)
    | _ =>
      match invitation.claimerUserId with
      | none => throw (.raised .assertionError)
      | some claimerUserId =>
        refuse (claimerUserId ≠ author.cooked.userId) (.bad .authorNotAllowed)

def cancelCheck (author : DeviceID) (token : InvitationToken) : Except Reply MemoryInvitation := do
  let user ← org.endAuthor author
  let invitation ← org.findInvitation token
  refuse (← orRaise (org.isInvitationCancelled invitation)) (.bad .invitationAlreadyCancelled)
  refuse invitation.isCompleted (.bad .invitationCompleted)
  org.checkGreeterOrClaimer invitation user
  return invitation

def completeCheck (author : DeviceID) (token : InvitationToken) :
    Except Reply MemoryInvitation := do
  let user ← org.endAuthor author
  let invitation ← org.findInvitation token
  refuse (← orRaise (org.isInvitationCancelled invitation)) (.bad .invitationCancelled)
  refuse invitation.isCompleted (.bad .invitationAlreadyCompleted)
  org.checkGreeterOrClaimer invitation user
  return invitation

def deleteInvitation (token : InvitationToken) (invitation : MemoryInvitation)
    (reason : MemoryInvitationDeletedReason) : MemoryOrganization :=
  { org with
    invitations := org.invitations.set token { invitation with deletedReason := some reason } }

def cancelInvitation (author : DeviceID) (token : InvitationToken) : Reply × MemoryOrganization :=
  match org.cancelCheck author token with
  | .error reply => (reply, org)
  | .ok invitation => (.none, org.deleteInvitation token invitation .cancelled)

def completeInvitation (author : DeviceID) (token : InvitationToken) :
    Reply × MemoryOrganization :=
  match org.completeCheck author token with
  | .error reply => (reply, org)
  | .ok invitation => (.none, org.deleteInvitation token invitation .finished)

end MemoryOrganization

end ParsecCloud.Server

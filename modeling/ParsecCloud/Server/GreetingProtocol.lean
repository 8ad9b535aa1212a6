import ParsecCloud.Server.GreetingRuns

/- What the two parties of a greeting may rely on. -/
namespace ParsecCloud.Server
open Certif Relation Rust

/-- The party, the attempt, the index and the payload of a step. -/
def InviteCall.stepOf :
    InviteCall → Option (GreeterOrClaimer × GreetingAttemptID × Nat × List Byte)
  | .greeterStep _ _ attempt stepIndex greeterData => some (.greeter, attempt, stepIndex, greeterData)
  | .claimerStep _ attempt stepIndex claimerData => some (.claimer, attempt, stepIndex, claimerData)
  | _ => none

/-- The step is stopped by a check before the steps of the attempt are looked at. -/
def InviteCall.Refused (org : MemoryOrganization) : InviteCall → Prop
  | .greeterStep author greeter attempt _ _ =>
    ∃ reply, org.greeterAttempt author greeter attempt = .error reply
  | .claimerStep token attempt _ _ => ∃ reply, org.claimerAttempt token attempt = .error reply
  | _ => False

def GreeterOrClaimer.other : GreeterOrClaimer → GreeterOrClaimer
  | .greeter => .claimer
  | .claimer => .greeter

def MemoryGreetingAttempt.stepsOf (a : MemoryGreetingAttempt) : GreeterOrClaimer → List (List Byte)
  | .greeter => a.greeterSteps
  | .claimer => a.claimerSteps

/-- The two replies of a step that is recorded. -/
def Reply.Succeeds : Reply → Prop
  | .data _ => True
  | .notReady => True
  | _ => False

def Active (org : MemoryOrganization) (id : GreetingAttemptID) : Prop :=
  ∃ a, org.greetingAttempts.get? id = some a ∧ a.isActive = true

/-- What a later step for the index of a step that gave data replies. -/
def SameAgain (org : MemoryOrganization) (later : InviteCall) (payload payload' data : List Byte) :
    Prop :=
  (∀ data', (later.perform org).1 = .data data' → data' = data) ∧
    (later.Refused org ∨
      (payload' = payload ∧ (later.perform org).1 = .data data) ∨
      (payload' ≠ payload ∧ (later.perform org).1 = .bad .stepMismatch))

/-- What a party may rely on after a step that gave data. -/
structure Received (org : MemoryOrganization) (party : GreeterOrClaimer) (id : GreetingAttemptID)
    (index : Nat) (payload data : List Byte) : Prop where
  recorded : ∃ a, org.greetingAttempts.get? id = some a ∧
    (a.stepsOf party.other)[index]? = some data ∧
    ∀ below < index, ∀ each : GreeterOrClaimer, below < (a.stepsOf each).length
  again : ∀ org', ReflTransGen InviteStep org org' → ∀ (later : InviteCall) payload',
    later.stepOf = some (party, id, index, payload') → SameAgain org' later payload payload' data

structure GreetingProtocol (start : MemoryOrganization) : Prop where
  oneActive : ∀ org, ReflTransGen InviteStep start org → ∀ token invitation,
    org.invitations.get? token = some invitation → ∀ greeter session,
      invitation.greetingSessions.get? greeter = some session →
        ∀ id ∈ session.greetingAttempts, ∀ id' ∈ session.greetingAttempts,
          Active org id → Active org id' → id = id'
  balanced : ∀ org, ReflTransGen InviteStep start org → ∀ id a,
    org.greetingAttempts.get? id = some a → Balanced a
  unchanged : ∀ org org', ReflTransGen InviteStep start org → ReflTransGen InviteStep org org' →
    ∀ id a, org.greetingAttempts.get? id = some a →
      ∃ a', org'.greetingAttempts.get? id = some a' ∧ ∀ party (index : Nat) payload,
        (a.stepsOf party)[index]? = some payload → (a'.stepsOf party)[index]? = some payload
  received : ∀ org, ReflTransGen InviteStep start org → ∀ (call : InviteCall) party id index payload data,
    call.stepOf = some (party, id, index, payload) → (call.perform org).1 = .data data →
      Received (call.perform org).2 party id index payload data
  cancelled : ∀ org org', ReflTransGen InviteStep start org → ReflTransGen InviteStep org org' →
    ∀ id a, org.greetingAttempts.get? id = some a → a.isActive = false →
      org'.greetingAttempts.get? id = some a
  closed : ∀ org org', ReflTransGen InviteStep start org → ReflTransGen InviteStep org org' →
    ∀ token, IsClosed org token → ∀ (call : InviteCall) party id index payload,
      call.stepOf = some (party, id, index, payload) →
        ∀ a, org'.greetingAttempts.get? id = some a → a.token = token →
          ¬ (call.perform org').1.Succeeds ∧ (call.perform org').2 = org'

/-- A server without greeting attempts. -/
def NoGreeting (org : MemoryOrganization) : Prop :=
  org.greetingAttempts = .empty ∧ ∀ token invitation,
    org.invitations.get? token = some invitation → invitation.greetingSessions = .empty

theorem invariant_of_noGreeting {org : MemoryOrganization} (none : NoGreeting org) :
    GreetingInvariant org := by
  obtain ⟨noAttempt, noSession⟩ := none
  constructor
  · intro id a found
    rw [noAttempt] at found
    cases found
  · intro id a found
    rw [noAttempt] at found
    cases found
  · intro token invitation isInvitation greeter session isSession
    rw [noSession token invitation isInvitation] at isSession
    cases isSession

theorem Evolves.stepsOf {a a' : MemoryGreetingAttempt} (evolves : Evolves a a')
    (party : GreeterOrClaimer) : a.stepsOf party <+: a'.stepsOf party := by
  cases party with
  | greeter => exact evolves.greeterSteps
  | claimer => exact evolves.claimerSteps

theorem getElem?_extended {α : Type} {l l' : List α} {index : Nat} {x : α} (isPrefix : l <+: l')
    (found : l[index]? = some x) : l'[index]? = some x := by
  obtain ⟨rest, rfl⟩ := isPrefix
  rw [List.getElem?_append_left (List.getElem?_eq_some_iff.mp found).1]
  exact found

/-- A check that stops the call never gives a step as recorded. -/
def Refuses {α : Type} (x : Except Reply α) : Prop :=
  ∀ reply, x = .error reply → ¬ reply.Succeeds

section Refuses
variable {α β : Type} {x : Except Reply α} {f : α → Except Reply β} {org : MemoryOrganization}

theorem refuses_ok (value : α) : Refuses (.ok value : Except Reply α) := by
  intro reply isError
  cases isError

theorem refuses_bad (outcome : InviteBadOutcome) :
    Refuses (.error (.bad outcome) : Except Reply α) := by
  intro reply isError succeeds
  cases isError
  exact succeeds

theorem refuses_raised (error : Raised) : Refuses (.error (.raised error) : Except Reply α) := by
  intro reply isError succeeds
  cases isError
  exact succeeds

theorem Refuses.bind (first : Refuses x) (next : ∀ value, Refuses (f value)) :
    Refuses (x >>= f) := by
  intro reply isError
  cases x with
  | error reply' =>
    cases isError
    exact first reply rfl
  | ok value => exact next value reply isError

theorem refuses_refuse (condition : Bool) (outcome : InviteBadOutcome) :
    Refuses (refuse condition (.bad outcome)) := by
  cases condition with
  | true => exact refuses_bad outcome
  | false => exact refuses_ok ()

theorem refuses_orRaise (x : Except Raised α) : Refuses (orRaise x) := by
  cases x with
  | error error => exact refuses_raised error
  | ok value => exact refuses_ok value

theorem refuses_findAttempt (id : GreetingAttemptID) : Refuses (org.findAttempt id) := by
  unfold MemoryOrganization.findAttempt
  split
  · exact refuses_bad _
  · split
    · exact refuses_bad _
    · exact refuses_ok _

theorem refuses_checkInvitationOpen (invitation : MemoryInvitation) :
    Refuses (org.checkInvitationOpen invitation) :=
  (refuses_refuse _ _).bind fun _ => (refuses_orRaise _).bind fun _ => refuses_refuse _ _

theorem refuses_checkGreeterAllowed (invitation : MemoryInvitation) (user : MemoryUser)
    (otherwise : InviteBadOutcome) :
    Refuses (org.checkGreeterAllowed invitation user otherwise) :=
  (refuses_orRaise _).bind fun _ => refuses_refuse _ _

theorem refuses_checkActive (a : MemoryGreetingAttempt) :
    Refuses (MemoryOrganization.checkActive a) := by
  unfold MemoryOrganization.checkActive
  split
  · intro reply isError succeeds
    cases isError
    exact succeeds
  · exact refuses_ok ()

theorem refuses_greeterAuthor (author : DeviceID) (greeter : UserID) :
    Refuses (org.greeterAuthor author greeter) := by
  unfold MemoryOrganization.greeterAuthor
  apply (refuses_refuse _ _).bind
  intro _
  split
  · exact refuses_bad _
  · rename_i device _
    have same : Refuses (refuse (decide (device.cooked.userId ≠ greeter))
        (.raised .assertionError)) := by
      unfold refuse
      split
      · exact refuses_raised _
      · exact refuses_ok ()
    apply same.bind
    intro _
    split
    · exact refuses_bad _
    · exact (refuses_refuse _ _).bind fun _ => refuses_ok _

theorem refuses_greeterAttempt (author : DeviceID) (greeter : UserID) (id : GreetingAttemptID) :
    Refuses (org.greeterAttempt author greeter id) :=
  (refuses_greeterAuthor author greeter).bind fun _ => (refuses_findAttempt id).bind fun _ =>
    (refuses_refuse _ _).bind fun _ => (refuses_checkInvitationOpen _).bind fun _ =>
      (refuses_checkGreeterAllowed _ _ _).bind fun _ => (refuses_checkActive _).bind fun _ =>
        (refuses_refuse _ _).bind fun _ => refuses_ok _

theorem refuses_claimerAttempt (token : InvitationToken) (id : GreetingAttemptID) :
    Refuses (org.claimerAttempt token id) := by
  unfold MemoryOrganization.claimerAttempt
  apply (refuses_refuse _ _).bind
  intro _
  apply (refuses_findAttempt id).bind
  intro found
  apply (refuses_refuse _ _).bind
  intro _
  split
  · exact refuses_raised _
  · exact (refuses_refuse _ _).bind fun _ => (refuses_checkInvitationOpen _).bind fun _ =>
      (refuses_checkGreeterAllowed _ _ _).bind fun _ => (refuses_checkActive _).bind fun _ =>
        (refuses_refuse _ _).bind fun _ => refuses_ok _

end Refuses

/-- The steps of one party are replaced. -/
def MemoryGreetingAttempt.withSteps (a : MemoryGreetingAttempt) (party : GreeterOrClaimer)
    (steps : List (List Byte)) : MemoryGreetingAttempt :=
  match party with
  | .greeter => { a with greeterSteps := steps }
  | .claimer => { a with claimerSteps := steps }

/-- A step that passes the checks is recorded in an active attempt of an open invitation. -/
structure Recorded (org : MemoryOrganization) (call : InviteCall) (party : GreeterOrClaimer)
    (id : GreetingAttemptID) (index : Nat) (payload : List Byte) (a : MemoryGreetingAttempt) :
    Prop where
  found : org.greetingAttempts.get? id = some a
  active : a.isActive = true
  isOpen : ∃ invitation, org.invitations.get? a.token = some invitation ∧ IsOpen org invitation
  reply : (call.perform org).1 = MemoryOrganization.stepReply
    (recordStep (a.stepsOf party) (a.stepsOf party.other) index payload).2
  after : (call.perform org).2 = org.putAttempt id
    (a.withSteps party (recordStep (a.stepsOf party) (a.stepsOf party.other) index payload).1)

theorem step_cases {org : MemoryOrganization} {call : InviteCall} {party : GreeterOrClaimer}
    {id : GreetingAttemptID} {index : Nat} {payload : List Byte}
    (isStep : call.stepOf = some (party, id, index, payload)) :
    (call.Refused org ∧ ¬ (call.perform org).1.Succeeds ∧ (call.perform org).2 = org) ∨
      ∃ a, Recorded org call party id index payload a := by
  cases call with
  | greeterStep author greeter id' index' payload' =>
    cases isStep
    cases check : org.greeterAttempt author greeter id with
    | error reply =>
      have run : InviteCall.perform org (.greeterStep author greeter id index payload) =
          (reply, org) := by
        simp only [InviteCall.perform, MemoryOrganization.greeterStep, check]
      rw [run]
      exact Or.inl ⟨⟨reply, check⟩, refuses_greeterAttempt author greeter id reply check, rfl⟩
    | ok a =>
      obtain ⟨found, active, isOpen⟩ := greeterAttempt_ok check
      refine Or.inr ⟨a, found, active, isOpen, ?_, ?_⟩
      · simp only [InviteCall.perform, MemoryOrganization.greeterStep, check]
        rfl
      · simp only [InviteCall.perform, MemoryOrganization.greeterStep, check]
        rfl
  | claimerStep token id' index' payload' =>
    cases isStep
    cases check : org.claimerAttempt token id with
    | error reply =>
      have run : InviteCall.perform org (.claimerStep token id index payload) = (reply, org) := by
        simp only [InviteCall.perform, MemoryOrganization.claimerStep, check]
      rw [run]
      exact Or.inl ⟨⟨reply, check⟩, refuses_claimerAttempt token id reply check, rfl⟩
    | ok a =>
      obtain ⟨found, active, isOpen⟩ := claimerAttempt_ok check
      refine Or.inr ⟨a, found, active, isOpen, ?_, ?_⟩
      · simp only [InviteCall.perform, MemoryOrganization.claimerStep, check]
        rfl
      · simp only [InviteCall.perform, MemoryOrganization.claimerStep, check]
        rfl
  | _ => cases isStep

theorem recordStep_mismatch {own other : List (List Byte)} {index : Nat}
    {payload payload' : List Byte} (mine : own[index]? = some payload) (differ : payload' ≠ payload) :
    recordStep own other index payload' = (own, .error .mismatch) := by
  unfold recordStep
  rw [if_pos]
  simp [mine, differ.symm]

theorem stepReply_data {outcome : Except StepOutcome (List Byte)} {data : List Byte}
    (isData : MemoryOrganization.stepReply outcome = .data data) : outcome = .ok data := by
  cases outcome with
  | error error => cases error <;> cases isData
  | ok data' =>
    cases isData
    rfl

theorem stepsOf_withSteps (a : MemoryGreetingAttempt) (party : GreeterOrClaimer)
    (steps : List (List Byte)) :
    (a.withSteps party steps).stepsOf party = steps ∧
      (a.withSteps party steps).stepsOf party.other = a.stepsOf party.other := by
  cases party with
  | greeter => exact ⟨rfl, rfl⟩
  | claimer => exact ⟨rfl, rfl⟩

theorem same_again {org : MemoryOrganization} {later : InviteCall} {party : GreeterOrClaimer}
    {id : GreetingAttemptID} {index : Nat} {payload payload' data : List Byte}
    {a : MemoryGreetingAttempt} (isStep : later.stepOf = some (party, id, index, payload'))
    (found : org.greetingAttempts.get? id = some a)
    (mine : (a.stepsOf party)[index]? = some payload)
    (theirs : (a.stepsOf party.other)[index]? = some data) :
    SameAgain org later payload payload' data := by
  rcases step_cases isStep with ⟨refused, notRecorded, -⟩ | ⟨b, recorded⟩
  · refine ⟨?_, Or.inl refused⟩
    intro data' isData
    rw [isData] at notRecorded
    exact absurd trivial notRecorded
  · have same : b = a := Option.some.inj (recorded.found.symm.trans found)
    have reply := recorded.reply
    rw [same] at reply
    by_cases samePayload : payload' = payload
    · rw [samePayload, recordStep_again mine theirs] at reply
      refine ⟨?_, Or.inr (Or.inl ⟨samePayload, reply⟩)⟩
      intro data' isData
      rw [reply] at isData
      cases isData
      rfl
    · rw [recordStep_mismatch mine samePayload] at reply
      refine ⟨?_, Or.inr (Or.inr ⟨samePayload, reply⟩)⟩
      intro data' isData
      rw [reply] at isData
      cases isData

theorem drawn_of_step {call : InviteCall}
    {step : GreeterOrClaimer × GreetingAttemptID × Nat × List Byte}
    (isStep : call.stepOf = some step) : call.drawn = [] := by
  cases call with
  | greeterStep => rfl
  | claimerStep => rfl
  | _ => cases isStep

theorem received_of_step {org : MemoryOrganization} (inv : GreetingInvariant org)
    {call : InviteCall} {party : GreeterOrClaimer} {id : GreetingAttemptID} {index : Nat}
    {payload data : List Byte} (isStep : call.stepOf = some (party, id, index, payload))
    (isData : (call.perform org).1 = .data data) :
    Received (call.perform org).2 party id index payload data := by
  have noDraw := drawn_of_step isStep
  have inv' := (call_keeps inv call (by simp [noDraw]) (by simp [noDraw])).1
  rcases step_cases isStep with ⟨-, notRecorded, -⟩ | ⟨a, recorded⟩
  · rw [isData] at notRecorded
    exact absurd trivial notRecorded
  · have reply := recorded.reply
    rw [isData] at reply
    obtain ⟨theirs, mine⟩ := recordStep_ok (stepReply_data reply.symm)
    rw [recorded.after] at inv' ⊢
    let a' := a.withSteps party
      (recordStep (a.stepsOf party) (a.stepsOf party.other) index payload).1
    have found : (org.putAttempt id a').greetingAttempts.get? id = some a' := Dict.get?_set_self _ _ _
    obtain ⟨own, other⟩ := stepsOf_withSteps a party
      (recordStep (a.stepsOf party) (a.stepsOf party.other) index payload).1
    have mine' : (a'.stepsOf party)[index]? = some payload := by rw [own]; exact mine
    have theirs' : (a'.stepsOf party.other)[index]? = some data := by rw [other]; exact theirs
    refine ⟨⟨a', found, theirs', ?_⟩, ?_⟩
    · intro below isBelow each
      have inMine := (List.getElem?_eq_some_iff.mp mine').1
      have inTheirs := (List.getElem?_eq_some_iff.mp theirs').1
      cases party with
      | greeter => cases each <;> exact Nat.lt_trans isBelow (by assumption)
      | claimer => cases each <;> exact Nat.lt_trans isBelow (by assumption)
    · intro org' run later payload' isLater
      obtain ⟨b, foundB, evolves⟩ := (run_keeps inv' run).2.grow.kept id a' found
      exact same_again isLater foundB (getElem?_extended (evolves.stepsOf party) mine')
        (getElem?_extended (evolves.stepsOf party.other) theirs')

/-- The protocol, from a server without greeting attempts. -/
theorem greeting_protocol (start : MemoryOrganization) (none : NoGreeting start) :
    GreetingProtocol start := by
  have inv : ∀ {org}, ReflTransGen InviteStep start org → GreetingInvariant org :=
    fun run => (run_keeps (invariant_of_noGreeting none) run).1
  constructor
  · rintro org run token invitation isInvitation greeter session isSession id member id' member'
      ⟨a, found, active⟩ ⟨a', found', active'⟩
    exact ((inv run).sessions token invitation isInvitation greeter session
      isSession).oneActive id member id' member' a a' found found' active active'
  · intro org run
    exact (inv run).balanced
  · intro org org' run later id a found
    obtain ⟨a', found', evolves⟩ := (run_keeps (inv run) later).2.grow.kept id a found
    exact ⟨a', found', fun party index payload => getElem?_extended (evolves.stepsOf party)⟩
  · intro org run call party id index payload data
    exact received_of_step (inv run)
  · intro org org' run later id a found inactive
    obtain ⟨a', found', evolves⟩ := (run_keeps (inv run) later).2.grow.kept id a found
    rw [found', evolves.cancelled inactive]
  · intro org org' run later token closed call party id index payload isStep a found isToken
    rcases step_cases isStep with ⟨-, notRecorded, same⟩ | ⟨b, recorded⟩
    · exact ⟨notRecorded, same⟩
    · have same : b = a := Option.some.inj (recorded.found.symm.trans found)
      obtain ⟨invitation, isInvitation, isOpen⟩ := recorded.isOpen
      obtain ⟨invitation', isInvitation', isClosed⟩ :=
        (run_keeps (inv run) later).2.closed token closed
      rw [same, isToken, isInvitation'] at isInvitation
      cases isInvitation
      rcases isClosed with completed | cancelled
      · rw [isOpen.1] at completed
        cases completed
      · rw [isOpen.2] at cancelled
        cases cancelled

/-- An administrator with a device, and an invitation of a new user. -/
def invitingOrganization : MemoryOrganization where
  isExpired := false
  activeUsersLimit := none
  sequesterAuthority := none
  sequesterServices := none
  users := Dict.empty.set ⟨1⟩ ⟨⟨.root, 0, ⟨1⟩, .admin⟩, ⟨"alice"⟩, [], [], [], none⟩
  devices := Dict.empty.set ⟨2⟩ ⟨⟨.root, 0, ⟨1⟩, ⟨2⟩, ⟨3⟩⟩, [], []⟩
  invitations := Dict.empty.set ⟨4⟩ ⟨⟨4⟩, .user, some ⟨"bob"⟩, none, none, none, .empty⟩
  greetingAttempts := .empty
  realms := .empty
  atomLists := []
  shamirRecoveries := .empty
  perTopicLastTimestamp := fun _ => none

theorem noGreeting_invitingOrganization : NoGreeting invitingOrganization := by
  refine ⟨rfl, ?_⟩
  intro token invitation found
  change (Dict.empty.set _ _).get? token = some invitation at found
  rcases Dict.found_set rfl found with ⟨-, rfl⟩ | ⟨-, found⟩
  · rfl
  · cases found

theorem inviting_organization_protocol : GreetingProtocol invitingOrganization :=
  greeting_protocol invitingOrganization noGreeting_invitingOrganization

/-- The greeter and the claimer start an attempt, and the greeter takes the first step. -/
def waitingOrganization : MemoryOrganization :=
  let org := ((InviteCall.greeterStart 1 ⟨2⟩ ⟨1⟩ ⟨4⟩ (⟨5⟩, ⟨6⟩)).perform invitingOrganization).2
  let org := ((InviteCall.claimerStart 2 ⟨4⟩ ⟨1⟩ (⟨7⟩, ⟨8⟩)).perform org).2
  ((InviteCall.greeterStep ⟨2⟩ ⟨1⟩ ⟨5⟩ 0 [10]).perform org).2

theorem reaches_waitingOrganization :
    ReflTransGen InviteStep invitingOrganization waitingOrganization := by
  refine .tail (.tail (.tail .refl (.call _ ?_ ?_)) (.call _ ?_ ?_)) (.call _ ?_ ?_)
  · decide
  · intro id _
    rfl
  · decide
  · intro id drawn
    simp only [InviteCall.drawn, List.mem_cons, List.not_mem_nil, or_false] at drawn
    rcases drawn with rfl | rfl
    · rfl
    · rfl
  · decide
  · intro id drawn
    cases drawn

/-- A later step for the same index and with another payload is a mismatch. -/
theorem later_step_mismatch :
    ¬ ∀ start, NoGreeting start → ∀ org, ReflTransGen InviteStep start org →
      ∀ (call : InviteCall) party id index payload data,
        call.stepOf = some (party, id, index, payload) → (call.perform org).1 = .data data →
          ∀ org', ReflTransGen InviteStep (call.perform org).2 org' →
            ∀ (later : InviteCall) payload', later.stepOf = some (party, id, index, payload') →
              (later.perform org').1 = .data data := by
  intro always
  have again := always invitingOrganization noGreeting_invitingOrganization waitingOrganization
    reaches_waitingOrganization (.claimerStep ⟨4⟩ ⟨5⟩ 0 [20]) .claimer ⟨5⟩ 0 [20] [10] rfl rfl _ .refl
    (.claimerStep ⟨4⟩ ⟨5⟩ 0 [30]) [30] rfl
  have mismatch : ((InviteCall.claimerStep ⟨4⟩ ⟨5⟩ 0 [30]).perform
      ((InviteCall.claimerStep ⟨4⟩ ⟨5⟩ 0 [20]).perform waitingOrganization).2).1 =
        .bad .stepMismatch := rfl
  rw [mismatch] at again
  cases again

end ParsecCloud.Server

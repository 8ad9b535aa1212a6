import ParsecCloud.Server.Greeting
import Mathlib.Logic.Relation
import Mathlib.Data.List.Infix

/- Greeting attempts over the runs of the server: calls of any greeters and claimers, in any order,
   with the other operations of the server between them. -/
namespace ParsecCloud.Server
open Certif Relation Rust

inductive InviteCall where
  | greeterStart (now : DateTime) (author : DeviceID) (greeter : UserID) (token : InvitationToken)
      (newIds : GreetingAttemptID × GreetingAttemptID)
  | claimerStart (now : DateTime) (token : InvitationToken) (greeter : UserID)
      (newIds : GreetingAttemptID × GreetingAttemptID)
  | greeterCancel (now : DateTime) (author : DeviceID) (greeter : UserID)
      (attempt : GreetingAttemptID) (reason : CancelledGreetingAttemptReason)
  | claimerCancel (now : DateTime) (token : InvitationToken) (attempt : GreetingAttemptID)
      (reason : CancelledGreetingAttemptReason)
  | greeterStep (author : DeviceID) (greeter : UserID) (attempt : GreetingAttemptID)
      (stepIndex : Nat) (greeterData : List Byte)
  | claimerStep (token : InvitationToken) (attempt : GreetingAttemptID) (stepIndex : Nat)
      (claimerData : List Byte)
  | cancel (author : DeviceID) (token : InvitationToken)
  | complete (author : DeviceID) (token : InvitationToken)

def InviteCall.perform (org : MemoryOrganization) : InviteCall → Reply × MemoryOrganization
  | .greeterStart now author greeter token newIds =>
    org.greeterStartGreetingAttempt now author greeter token newIds
  | .claimerStart now token greeter newIds =>
    org.claimerStartGreetingAttempt now token greeter newIds
  | .greeterCancel now author greeter attempt reason =>
    org.greeterCancelGreetingAttempt now author greeter attempt reason
  | .claimerCancel now token attempt reason =>
    org.claimerCancelGreetingAttempt now token attempt reason
  | .greeterStep author greeter attempt stepIndex greeterData =>
    org.greeterStep author greeter attempt stepIndex greeterData
  | .claimerStep token attempt stepIndex claimerData =>
    org.claimerStep token attempt stepIndex claimerData
  | .cancel author token => org.cancelInvitation author token
  | .complete author token => org.completeInvitation author token

/-- The identifiers that the call draws. -/
def InviteCall.drawn : InviteCall → List GreetingAttemptID
  | .greeterStart _ _ _ _ newIds => [newIds.1, newIds.2]
  | .claimerStart _ _ _ newIds => [newIds.1, newIds.2]
  | _ => []

/-- The other operations: users, devices and recoveries change and invitations are created, but an
    invitation that is cancelled stays so. -/
structure Elsewhere (org org' : MemoryOrganization) : Prop where
  attempts : org'.greetingAttempts = org.greetingAttempts
  kept : ∀ token invitation, org.invitations.get? token = some invitation →
    org'.invitations.get? token = some invitation
  created : ∀ token invitation, org'.invitations.get? token = some invitation →
    org.invitations.get? token = some invitation ∨
      org.invitations.get? token = none ∧ invitation.greetingSessions = .empty
  cancelled : ∀ invitation, org.isInvitationCancelled invitation = .ok true →
    org'.isInvitationCancelled invitation = .ok true

/-- A call draws identifiers that no attempt has. -/
inductive InviteStep : MemoryOrganization → MemoryOrganization → Prop where
  | call {org : MemoryOrganization} (call : InviteCall) (distinct : call.drawn.Nodup)
      (fresh : ∀ id ∈ call.drawn, org.greetingAttempts.get? id = none) :
      InviteStep org (call.perform org).2
  | elsewhere {org org' : MemoryOrganization} (elsewhere : Elsewhere org org') : InviteStep org org'

def Balanced (attempt : MemoryGreetingAttempt) : Prop :=
  attempt.greeterSteps.length ≤ attempt.claimerSteps.length + 1 ∧
    attempt.claimerSteps.length ≤ attempt.greeterSteps.length + 1

/-- What may happen to an attempt: nothing once it is cancelled. -/
structure Evolves (a a' : MemoryGreetingAttempt) : Prop where
  id : a'.greetingAttempt = a.greetingAttempt
  token : a'.token = a.token
  greeterSteps : a.greeterSteps <+: a'.greeterSteps
  claimerSteps : a.claimerSteps <+: a'.claimerSteps
  cancelled : a.isActive = false → a' = a
  balanced : Balanced a → Balanced a'

theorem Evolves.refl (a : MemoryGreetingAttempt) : Evolves a a :=
  ⟨rfl, rfl, List.prefix_rfl, List.prefix_rfl, fun _ => rfl, fun balanced => balanced⟩

theorem Evolves.trans {a b c : MemoryGreetingAttempt} (first : Evolves a b) (second : Evolves b c) :
    Evolves a c where
  id := second.id.trans first.id
  token := second.token.trans first.token
  greeterSteps := first.greeterSteps.trans second.greeterSteps
  claimerSteps := first.claimerSteps.trans second.claimerSteps
  cancelled := by
    intro inactive
    have same := first.cancelled inactive
    rw [← same] at inactive
    rw [second.cancelled inactive, same]
  balanced := fun balanced => second.balanced (first.balanced balanced)

theorem Evolves.active {a b : MemoryGreetingAttempt} (evolves : Evolves a b)
    (active : b.isActive = true) : a.isActive = true := by
  by_contra inactive
  rw [Bool.not_eq_true] at inactive
  rw [evolves.cancelled inactive, inactive] at active
  cases active

section RecordStep
variable {own other : List (List Byte)} {index : Nat} {payload data : List Byte}

theorem recordStep_prefix : own <+: (recordStep own other index payload).1 := by
  unfold recordStep
  split
  · exact List.prefix_rfl
  · split
    · exact List.prefix_rfl
    · by_cases next : index = own.length
      · simp only [next, if_true]
        split <;> exact List.prefix_append _ _
      · simp only [next, if_false]
        split <;> exact List.prefix_rfl

/-- A party is never more than one step ahead. -/
theorem recordStep_length (ahead : own.length ≤ other.length + 1) :
    (recordStep own other index payload).1.length ≤ other.length + 1 := by
  unfold recordStep
  split
  · exact ahead
  · split
    · exact ahead
    · rename_i inReach
      simp only [Bool.or_eq_true, decide_eq_true_eq, not_or, Nat.not_lt] at inReach
      by_cases next : index = own.length
      · have short : (own ++ [payload]).length ≤ other.length + 1 := by
          rw [List.length_append, List.length_singleton]
          omega
        simp only [next, if_true]
        split <;> exact short
      · simp only [next, if_false]
        split <;> exact ahead

/-- The data of a step is what the other party has recorded, and the payload is recorded. -/
theorem recordStep_ok (ok : (recordStep own other index payload).2 = .ok data) :
    other[index]? = some data ∧ (recordStep own other index payload).1[index]? = some payload := by
  unfold recordStep at ok ⊢
  split at ok
  · cases ok
  · rename_i matches'
    rw [if_neg matches']
    split at ok
    · cases ok
    · rename_i inReach
      rw [if_neg inReach]
      simp only [Bool.or_eq_true, decide_eq_true_eq, not_or, Nat.not_lt] at inReach
      cases answer : other[index]? with
      | none =>
        simp only [answer] at ok
        cases ok
      | some data' =>
        simp only [answer] at ok ⊢
        cases ok
        refine ⟨rfl, ?_⟩
        by_cases next : index = own.length
        · simp [next]
        · have inside : index < own.length := by omega
          rw [if_neg next, List.getElem?_eq_getElem inside]
          simp only [List.getElem?_eq_getElem inside, Option.any_some, decide_eq_true_eq,
            not_not] at matches'
          rw [matches']

/-- A step that is repeated with its payload gives the same data, and records nothing. -/
theorem recordStep_again (mine : own[index]? = some payload) (theirs : other[index]? = some data) :
    recordStep own other index payload = (own, .ok data) := by
  have inOwn := (List.getElem?_eq_some_iff.mp mine).1
  have inOther := (List.getElem?_eq_some_iff.mp theirs).1
  unfold recordStep
  rw [if_neg (by simp [mine]), if_neg (by simp; omega)]
  simp only [theirs, Nat.ne_of_lt inOwn, if_false]

end RecordStep

theorem evolves_greeterStep {a : MemoryGreetingAttempt} (active : a.isActive = true) (index : Nat)
    (payload : List Byte) : Evolves a (a.greeterStep index payload).1 where
  id := rfl
  token := rfl
  greeterSteps := recordStep_prefix
  claimerSteps := List.prefix_rfl
  cancelled := by simp [active]
  balanced := by
    rintro ⟨greeter, claimer⟩
    have longer : a.greeterSteps.length ≤ (a.greeterStep index payload).1.greeterSteps.length :=
      recordStep_prefix.length_le
    exact ⟨recordStep_length greeter, claimer.trans (Nat.succ_le_succ longer)⟩

theorem evolves_claimerStep {a : MemoryGreetingAttempt} (active : a.isActive = true) (index : Nat)
    (payload : List Byte) : Evolves a (a.claimerStep index payload).1 where
  id := rfl
  token := rfl
  greeterSteps := List.prefix_rfl
  claimerSteps := recordStep_prefix
  cancelled := by simp [active]
  balanced := by
    rintro ⟨greeter, claimer⟩
    have longer : a.claimerSteps.length ≤ (a.claimerStep index payload).1.claimerSteps.length :=
      recordStep_prefix.length_le
    exact ⟨greeter.trans (Nat.succ_le_succ longer), recordStep_length claimer⟩

theorem evolves_marked {a a' : MemoryGreetingAttempt} (active : a.isActive = true)
    (id : a'.greetingAttempt = a.greetingAttempt) (token : a'.token = a.token)
    (greeterSteps : a'.greeterSteps = a.greeterSteps)
    (claimerSteps : a'.claimerSteps = a.claimerSteps) : Evolves a a' where
  id := id
  token := token
  greeterSteps := greeterSteps ▸ List.prefix_rfl
  claimerSteps := claimerSteps ▸ List.prefix_rfl
  cancelled := by simp [active]
  balanced := by
    intro balanced
    rw [Balanced, greeterSteps, claimerSteps]
    exact balanced

/-- A party that joins: it cancels the attempt only when it has joined it. -/
structure Joins (joinOrCancel : MemoryGreetingAttempt → MemoryGreetingAttempt) : Prop where
  evolves : ∀ a, a.isActive = true → Evolves a (joinOrCancel a)
  joins : ∀ a, a.isActive = true → a.greeterJoined = none → a.claimerJoined = none →
    (joinOrCancel a).isActive = true

theorem joins_greeter (now : DateTime) : Joins (MemoryGreetingAttempt.greeterJoinOrCancel now) := by
  constructor
  · intro a active
    unfold MemoryGreetingAttempt.greeterJoinOrCancel
    split <;> exact evolves_marked active rfl rfl rfl rfl
  · intro a active notJoined _
    rw [MemoryGreetingAttempt.greeterJoinOrCancel, notJoined]
    exact active

theorem joins_claimer (now : DateTime) : Joins (MemoryGreetingAttempt.claimerJoinOrCancel now) := by
  constructor
  · intro a active
    unfold MemoryGreetingAttempt.claimerJoinOrCancel
    split <;> exact evolves_marked active rfl rfl rfl rfl
  · intro a active _ notJoined
    rw [MemoryGreetingAttempt.claimerJoinOrCancel, notJoined]
    exact active

abbrev Attempts := Dict GreetingAttemptID MemoryGreetingAttempt

/-- The attempts that are there evolve, and new ones are well formed. -/
structure Grow (d d' : Attempts) : Prop where
  kept : ∀ id a, d.get? id = some a → ∃ a', d'.get? id = some a' ∧ Evolves a a'
  added : ∀ id a', d'.get? id = some a' →
    (∃ a, d.get? id = some a) ∨ a'.greetingAttempt = id ∧ Balanced a'

theorem Grow.refl (d : Attempts) : Grow d d :=
  ⟨fun _ a found => ⟨a, found, .refl a⟩, fun _ a found => Or.inl ⟨a, found⟩⟩

theorem Grow.trans {d d' d'' : Attempts} (first : Grow d d') (second : Grow d' d'') :
    Grow d d'' := by
  constructor
  · intro id a found
    obtain ⟨b, foundB, toB⟩ := first.kept id a found
    obtain ⟨c, foundC, toC⟩ := second.kept id b foundB
    exact ⟨c, foundC, toB.trans toC⟩
  · intro id c foundC
    rcases second.added id c foundC with ⟨b, foundB⟩ | isNew
    · rcases first.added id b foundB with old | ⟨isId, balanced⟩
      · exact Or.inl old
      · obtain ⟨c', foundC', evolves⟩ := second.kept id b foundB
        rw [foundC] at foundC'
        cases foundC'
        exact Or.inr ⟨evolves.id.trans isId, evolves.balanced balanced⟩
    · exact Or.inr isNew

theorem grow_set {d : Attempts} {id : GreetingAttemptID} {a a' : MemoryGreetingAttempt}
    (found : d.get? id = some a) (evolves : Evolves a a') : Grow d (d.set id a') := by
  constructor
  · intro other b foundB
    rw [Dict.get?_set]
    split
    · rename_i same
      rw [same, found] at foundB
      cases foundB
      exact ⟨a', rfl, evolves⟩
    · exact ⟨b, foundB, .refl b⟩
  · intro other b foundB
    rw [Dict.get?_set] at foundB
    split at foundB
    · rename_i same
      rw [same]
      exact Or.inl ⟨a, found⟩
    · exact Or.inl ⟨b, foundB⟩

theorem grow_new {d : Attempts} {id : GreetingAttemptID} {a : MemoryGreetingAttempt}
    (fresh : d.get? id = none) (isId : a.greetingAttempt = id) (balanced : Balanced a) :
    Grow d (d.set id a) := by
  constructor
  · intro other b foundB
    have differ : other ≠ id := by
      rintro rfl
      rw [fresh] at foundB
      cases foundB
    exact ⟨b, (Dict.get?_set_of_ne differ).trans foundB, .refl b⟩
  · intro other b foundB
    rcases Dict.found_set rfl foundB with ⟨same, rfl⟩ | ⟨-, foundB⟩
    · rw [same]
      exact Or.inr ⟨isId, balanced⟩
    · exact Or.inl ⟨b, foundB⟩

/-- The identifiers of a session are those of attempts, at most one of which is active. -/
structure SessionValid (d : Attempts) (ids : List GreetingAttemptID) : Prop where
  known : ∀ id ∈ ids, ∃ a, d.get? id = some a
  oneActive : ∀ id ∈ ids, ∀ id' ∈ ids, ∀ a a', d.get? id = some a → d.get? id' = some a' →
    a.isActive = true → a'.isActive = true → id = id'

structure GreetingInvariant (org : MemoryOrganization) : Prop where
  keyed : ∀ id a, org.greetingAttempts.get? id = some a → a.greetingAttempt = id
  balanced : ∀ id a, org.greetingAttempts.get? id = some a → Balanced a
  sessions : ∀ token invitation, org.invitations.get? token = some invitation →
    ∀ greeter session, invitation.greetingSessions.get? greeter = some session →
      SessionValid org.greetingAttempts session.greetingAttempts

theorem SessionValid.grow {d d' : Attempts} {ids : List GreetingAttemptID}
    (valid : SessionValid d ids) (grow : Grow d d') : SessionValid d' ids := by
  have before : ∀ id ∈ ids, ∀ a', d'.get? id = some a' → a'.isActive = true →
      ∃ a, d.get? id = some a ∧ a.isActive = true := by
    intro id member a' found active
    obtain ⟨a, foundA⟩ := valid.known id member
    obtain ⟨b, foundB, evolves⟩ := grow.kept id a foundA
    rw [found] at foundB
    cases foundB
    exact ⟨a, foundA, evolves.active active⟩
  constructor
  · intro id member
    obtain ⟨a, found⟩ := valid.known id member
    obtain ⟨a', found', -⟩ := grow.kept id a found
    exact ⟨a', found'⟩
  · intro id member id' member' a a' found found' active active'
    obtain ⟨b, foundB, activeB⟩ := before id member a found active
    obtain ⟨b', foundB', activeB'⟩ := before id' member' a' found' active'
    exact valid.oneActive id member id' member' b b' foundB foundB' activeB activeB'

theorem keyed_of_grow {d d' : Attempts} (grow : Grow d d')
    (keyed : ∀ id a, d.get? id = some a → a.greetingAttempt = id) :
    ∀ id a, d'.get? id = some a → a.greetingAttempt = id := by
  intro id a' found'
  rcases grow.added id a' found' with ⟨a, found⟩ | ⟨isId, -⟩
  · obtain ⟨b, foundB, evolves⟩ := grow.kept id a found
    rw [found'] at foundB
    cases foundB
    exact evolves.id.trans (keyed id a found)
  · exact isId

theorem balanced_of_grow {d d' : Attempts} (grow : Grow d d')
    (balanced : ∀ id a, d.get? id = some a → Balanced a) :
    ∀ id a, d'.get? id = some a → Balanced a := by
  intro id a' found'
  rcases grow.added id a' found' with ⟨a, found⟩ | ⟨-, isBalanced⟩
  · obtain ⟨b, foundB, evolves⟩ := grow.kept id a found
    rw [found'] at foundB
    cases foundB
    exact evolves.balanced (balanced id a found)
  · exact isBalanced

theorem firstActive_spec {org : MemoryOrganization} {ids : List GreetingAttemptID}
    (known : ∀ id ∈ ids, ∃ a, org.greetingAttempts.get? id = some a) :
    (∃ id ∈ ids, ∃ a, org.firstActive ids = .ok (some a) ∧
      org.greetingAttempts.get? id = some a ∧ a.isActive = true) ∨
    org.firstActive ids = .ok none ∧
      ∀ id ∈ ids, ∀ a, org.greetingAttempts.get? id = some a → a.isActive = false := by
  induction ids with
  | nil => exact Or.inr ⟨rfl, by simp⟩
  | cons id rest ih =>
    obtain ⟨a, found⟩ := known id (by simp)
    cases active : a.isActive with
    | true =>
      refine Or.inl ⟨id, by simp, a, ?_, found, active⟩
      rw [MemoryOrganization.firstActive, found]
      simp [active]
    | false =>
      have skip : org.firstActive (id :: rest) = org.firstActive rest := by
        rw [MemoryOrganization.firstActive, found]
        simp [active]
      rw [skip]
      rcases ih fun other member => known other (List.mem_cons_of_mem _ member) with
        ⟨other, member, b, first, foundB, activeB⟩ | ⟨none, inactive⟩
      · exact Or.inl ⟨other, List.mem_cons_of_mem _ member, b, first, foundB, activeB⟩
      · refine Or.inr ⟨none, ?_⟩
        intro other member b foundB
        rcases List.mem_cons.mp member with rfl | inRest
        · rw [found] at foundB
          cases foundB
          exact active
        · exact inactive other inRest b foundB

/-- A session with other attempts. -/
def SessionState.with (s : SessionState) (d : Attempts) (ids : List GreetingAttemptID) :
    SessionState :=
  ⟨{ s.org with greetingAttempts := d }, { s.session with greetingAttempts := ids }⟩

theorem SessionValid.add {d : Attempts} {ids : List GreetingAttemptID} {id : GreetingAttemptID}
    {a : MemoryGreetingAttempt} (valid : SessionValid d ids) (fresh : d.get? id = none)
    (inactive : ∀ id ∈ ids, ∀ a, d.get? id = some a → a.isActive = false) :
    SessionValid (d.set id a) (ids ++ [id]) := by
  have old : ∀ other ∈ ids, (d.set id a).get? other = d.get? other := by
    intro other member
    apply Dict.get?_set_of_ne
    rintro rfl
    obtain ⟨b, found⟩ := valid.known other member
    rw [fresh] at found
    cases found
  have onlyNew : ∀ other ∈ ids ++ [id], ∀ b, (d.set id a).get? other = some b →
      b.isActive = true → other = id := by
    intro other member b found active
    rcases List.mem_append.mp member with isOld | isNew
    · rw [old other isOld] at found
      rw [inactive other isOld b found] at active
      cases active
    · exact List.mem_singleton.mp isNew
  constructor
  · intro other member
    rcases List.mem_append.mp member with isOld | isNew
    · rw [old other isOld]
      exact valid.known other isOld
    · rw [List.mem_singleton.mp isNew, Dict.get?_set_self]
      exact ⟨a, rfl⟩
  · intro first member second member' b b' found found' active active'
    rw [onlyNew first member b found active, onlyNew second member' b' found' active']

theorem getActive_spec {s : SessionState} {newId : GreetingAttemptID}
    (keyed : ∀ id a, s.org.greetingAttempts.get? id = some a → a.greetingAttempt = id)
    (valid : SessionValid s.org.greetingAttempts s.session.greetingAttempts)
    (fresh : s.org.greetingAttempts.get? newId = none) :
    ∃ d ids a, s.getActiveGreetingAttempt newId = (s.with d ids, .ok a) ∧
      Grow s.org.greetingAttempts d ∧ SessionValid d ids ∧ a.isActive = true ∧
      d.get? a.greetingAttempt = some a ∧ a.greetingAttempt ∈ ids ∧
      (∀ id, id ≠ newId → s.org.greetingAttempts.get? id = none → d.get? id = none) ∧
      ((∃ id ∈ s.session.greetingAttempts, ∃ a, s.org.greetingAttempts.get? id = some a ∧
        a.isActive = true) ∨ a.greeterJoined = none ∧ a.claimerJoined = none) := by
  unfold SessionState.getActiveGreetingAttempt
  rcases firstActive_spec valid.known with ⟨id, member, a, first, found, active⟩ | ⟨none, inactive⟩
  · have isId := keyed id a found
    refine ⟨_, _, a, by rw [first]; rfl, .refl _, valid, active, isId.symm ▸ found,
      isId.symm ▸ member, fun _ _ absent => absent, Or.inl ⟨id, member, a, found, active⟩⟩
  · rw [none]
    refine ⟨_, _, _, rfl, grow_new fresh rfl ⟨Nat.zero_le _, Nat.zero_le _⟩,
      valid.add fresh inactive, rfl, Dict.get?_set_self _ _ _, by simp, ?_, Or.inr ⟨rfl, rfl⟩⟩
    intro id differ absent
    exact (Dict.get?_set_of_ne differ).trans absent

theorem newAttempt_spec {joinOrCancel : MemoryGreetingAttempt → MemoryGreetingAttempt}
    (joins : Joins joinOrCancel) {s : SessionState}
    {newIds : GreetingAttemptID × GreetingAttemptID}
    (keyed : ∀ id a, s.org.greetingAttempts.get? id = some a → a.greetingAttempt = id)
    (valid : SessionValid s.org.greetingAttempts s.session.greetingAttempts)
    (distinct : newIds.1 ≠ newIds.2) (fresh₁ : s.org.greetingAttempts.get? newIds.1 = none)
    (fresh₂ : s.org.greetingAttempts.get? newIds.2 = none) :
    ∃ d ids a, s.newAttempt joinOrCancel newIds = (s.with d ids, .ok a) ∧
      Grow s.org.greetingAttempts d ∧ SessionValid d ids := by
  obtain ⟨d₁, ids₁, a₁, run₁, grow₁, valid₁, active₁, found₁, member₁, absent₁, -⟩ :=
    getActive_spec keyed valid fresh₁
  have evolves₁ := joins.evolves a₁ active₁
  have grow₂ : Grow d₁ (d₁.set (joinOrCancel a₁).greetingAttempt (joinOrCancel a₁)) := by
    rw [evolves₁.id]
    exact grow_set found₁ evolves₁
  have valid₂ := valid₁.grow grow₂
  unfold SessionState.newAttempt
  rw [run₁]
  cases stays : (joinOrCancel a₁).isActive with
  | true =>
    refine ⟨_, ids₁, joinOrCancel a₁, ?_, grow₁.trans grow₂, valid₂⟩
    simp only [stays, if_true]
    rfl
  | false =>
    let s₂ : SessionState :=
      s.with (d₁.set (joinOrCancel a₁).greetingAttempt (joinOrCancel a₁)) ids₁
    have keyed₂ := keyed_of_grow (grow₁.trans grow₂) keyed
    have noneActive : ∀ id ∈ ids₁, ∀ a, s₂.org.greetingAttempts.get? id = some a →
        a.isActive = false := by
      intro id member a found
      by_contra active
      rw [Bool.not_eq_false] at active
      change (d₁.set (joinOrCancel a₁).greetingAttempt (joinOrCancel a₁)).get? id = some a at found
      rw [Dict.get?_set, evolves₁.id] at found
      split at found
      · cases found
        rw [stays] at active
        cases active
      · rename_i other
        exact other (valid₁.oneActive id member a₁.greetingAttempt member₁ a a₁ found found₁ active
          active₁)
    have freshSecond : s₂.org.greetingAttempts.get? newIds.2 = none := by
      have absent : d₁.get? newIds.2 = none := absent₁ newIds.2 (Ne.symm distinct) fresh₂
      change (d₁.set (joinOrCancel a₁).greetingAttempt (joinOrCancel a₁)).get? newIds.2 = none
      rw [Dict.get?_set, evolves₁.id, if_neg]
      · exact absent
      · intro same
        rw [same, found₁] at absent
        cases absent
    obtain ⟨d₃, ids₃, a₃, run₃, grow₃, valid₃, active₃, found₃, member₃, -, alone⟩ :=
      @getActive_spec s₂ newIds.2 keyed₂ valid₂ freshSecond
    have joined : (joinOrCancel a₃).isActive = true := by
      rcases alone with ⟨id, member, a, found, active⟩ | ⟨noGreeter, noClaimer⟩
      · rw [noneActive id member a found] at active
        cases active
      · exact joins.joins a₃ active₃ noGreeter noClaimer
    have evolves₃ := joins.evolves a₃ active₃
    have grow₄ : Grow d₃ (d₃.set (joinOrCancel a₃).greetingAttempt (joinOrCancel a₃)) := by
      rw [evolves₃.id]
      exact grow_set found₃ evolves₃
    have again : SessionState.getActiveGreetingAttempt ⟨(s.with d₁ ids₁).org.putAttempt
        (joinOrCancel a₁).greetingAttempt (joinOrCancel a₁), (s.with d₁ ids₁).session⟩ newIds.2 =
        (s₂.with d₃ ids₃, .ok a₃) := run₃
    refine ⟨_, ids₃, joinOrCancel a₃, ?_, ((grow₁.trans grow₂).trans grow₃).trans grow₄,
      valid₃.grow grow₄⟩
    simp only [stays, Bool.false_eq_true, if_false, again, joined, if_true]
    rfl

section Guards
variable {org : MemoryOrganization} {id : GreetingAttemptID} {a : MemoryGreetingAttempt}
  {invitation : MemoryInvitation} {done : Unit}

theorem orRaise_ok {α : Type} {x : Except Raised α} {value : α} (ok : orRaise x = .ok value) :
    x = .ok value := by
  cases x with
  | error error => cases ok
  | ok value' =>
    cases ok
    rfl

theorem findAttempt_ok (ok : org.findAttempt id = .ok (a, invitation)) :
    org.greetingAttempts.get? id = some a ∧ org.invitations.get? a.token = some invitation := by
  unfold MemoryOrganization.findAttempt at ok
  split at ok
  · cases ok
  · rename_i attempt found
    split at ok
    · cases ok
    · rename_i isInvitation
      cases ok
      exact ⟨found, isInvitation⟩

theorem checkActive_ok (ok : MemoryOrganization.checkActive a = .ok done) : a.isActive = true := by
  unfold MemoryOrganization.checkActive at ok
  split at ok
  · cases ok
  · rename_i notCancelled
    rw [MemoryGreetingAttempt.isActive, notCancelled]
    rfl

/-- An invitation that is neither completed nor cancelled. -/
def IsOpen (org : MemoryOrganization) (invitation : MemoryInvitation) : Prop :=
  invitation.isCompleted = false ∧ org.isInvitationCancelled invitation = .ok false

theorem checkInvitationOpen_ok (ok : org.checkInvitationOpen invitation = .ok done) :
    IsOpen org invitation := by
  unfold MemoryOrganization.checkInvitationOpen at ok
  obtain ⟨_, notCompleted, ok⟩ := bind_eq_ok.mp ok
  obtain ⟨cancelled, isCancelled, ok⟩ := bind_eq_ok.mp ok
  rw [refuse_eq_ok] at notCompleted ok
  rw [ok] at isCancelled
  exact ⟨notCompleted, orRaise_ok isCancelled⟩

theorem greeterAttempt_ok {author : DeviceID} {greeter : UserID}
    (ok : org.greeterAttempt author greeter id = .ok a) :
    org.greetingAttempts.get? id = some a ∧ a.isActive = true ∧
      ∃ invitation, org.invitations.get? a.token = some invitation ∧ IsOpen org invitation := by
  unfold MemoryOrganization.greeterAttempt at ok
  obtain ⟨user, -, ok⟩ := bind_eq_ok.mp ok
  obtain ⟨⟨attempt, invitation⟩, found, ok⟩ := bind_eq_ok.mp ok
  obtain ⟨_, -, ok⟩ := bind_eq_ok.mp ok
  obtain ⟨_, isOpen, ok⟩ := bind_eq_ok.mp ok
  obtain ⟨_, -, ok⟩ := bind_eq_ok.mp ok
  obtain ⟨_, active, ok⟩ := bind_eq_ok.mp ok
  obtain ⟨_, -, ok⟩ := bind_eq_ok.mp ok
  cases ok
  obtain ⟨isAttempt, isInvitation⟩ := findAttempt_ok found
  exact ⟨isAttempt, checkActive_ok active, invitation, isInvitation, checkInvitationOpen_ok isOpen⟩

theorem claimerAttempt_ok {token : InvitationToken} (ok : org.claimerAttempt token id = .ok a) :
    org.greetingAttempts.get? id = some a ∧ a.isActive = true ∧
      ∃ invitation, org.invitations.get? a.token = some invitation ∧ IsOpen org invitation := by
  unfold MemoryOrganization.claimerAttempt at ok
  obtain ⟨_, -, ok⟩ := bind_eq_ok.mp ok
  obtain ⟨⟨attempt, invitation⟩, found, ok⟩ := bind_eq_ok.mp ok
  obtain ⟨_, -, ok⟩ := bind_eq_ok.mp ok
  cases isUser : org.users.get? attempt.greeterId with
  | none =>
    simp only [isUser] at ok
    cases ok
  | some user =>
    simp only [isUser] at ok
    obtain ⟨_, -, ok⟩ := bind_eq_ok.mp ok
    obtain ⟨_, isOpen, ok⟩ := bind_eq_ok.mp ok
    obtain ⟨_, -, ok⟩ := bind_eq_ok.mp ok
    obtain ⟨_, active, ok⟩ := bind_eq_ok.mp ok
    obtain ⟨_, -, ok⟩ := bind_eq_ok.mp ok
    cases ok
    obtain ⟨isAttempt, isInvitation⟩ := findAttempt_ok found
    exact ⟨isAttempt, checkActive_ok active, invitation, isInvitation,
      checkInvitationOpen_ok isOpen⟩

theorem findInvitation_ok {token : InvitationToken} (ok : org.findInvitation token = .ok invitation) :
    org.invitations.get? token = some invitation := by
  unfold MemoryOrganization.findInvitation at ok
  split at ok
  · cases ok
  · rename_i found
    cases ok
    exact found

theorem greeterStartCheck_ok {author : DeviceID} {greeter : UserID} {token : InvitationToken}
    (ok : org.greeterStartCheck author greeter token = .ok invitation) :
    org.invitations.get? token = some invitation := by
  unfold MemoryOrganization.greeterStartCheck at ok
  obtain ⟨_, -, ok⟩ := bind_eq_ok.mp ok
  obtain ⟨found, isFound, ok⟩ := bind_eq_ok.mp ok
  obtain ⟨_, -, ok⟩ := bind_eq_ok.mp ok
  obtain ⟨_, -, ok⟩ := bind_eq_ok.mp ok
  cases ok
  exact findInvitation_ok isFound

theorem claimerStartCheck_ok {greeter : UserID} {token : InvitationToken}
    (ok : org.claimerStartCheck token greeter = .ok invitation) :
    org.invitations.get? token = some invitation := by
  unfold MemoryOrganization.claimerStartCheck at ok
  obtain ⟨_, -, ok⟩ := bind_eq_ok.mp ok
  cases isUser : org.users.get? greeter with
  | none =>
    simp only [isUser] at ok
    cases ok
  | some user =>
    simp only [isUser] at ok
    obtain ⟨_, -, ok⟩ := bind_eq_ok.mp ok
    obtain ⟨found, isFound, ok⟩ := bind_eq_ok.mp ok
    obtain ⟨_, -, ok⟩ := bind_eq_ok.mp ok
    obtain ⟨_, -, ok⟩ := bind_eq_ok.mp ok
    cases ok
    exact findInvitation_ok isFound

theorem cancelCheck_ok {author : DeviceID} {token : InvitationToken}
    (ok : org.cancelCheck author token = .ok invitation) :
    org.invitations.get? token = some invitation ∧ IsOpen org invitation := by
  unfold MemoryOrganization.cancelCheck at ok
  obtain ⟨_, -, ok⟩ := bind_eq_ok.mp ok
  obtain ⟨found, isFound, ok⟩ := bind_eq_ok.mp ok
  obtain ⟨cancelled, isCancelled, ok⟩ := bind_eq_ok.mp ok
  obtain ⟨_, notCancelled, ok⟩ := bind_eq_ok.mp ok
  obtain ⟨_, notCompleted, ok⟩ := bind_eq_ok.mp ok
  obtain ⟨_, -, ok⟩ := bind_eq_ok.mp ok
  cases ok
  rw [refuse_eq_ok] at notCancelled notCompleted
  rw [notCancelled] at isCancelled
  exact ⟨findInvitation_ok isFound, notCompleted, orRaise_ok isCancelled⟩

theorem completeCheck_ok {author : DeviceID} {token : InvitationToken}
    (ok : org.completeCheck author token = .ok invitation) :
    org.invitations.get? token = some invitation ∧ IsOpen org invitation := by
  unfold MemoryOrganization.completeCheck at ok
  obtain ⟨_, -, ok⟩ := bind_eq_ok.mp ok
  obtain ⟨found, isFound, ok⟩ := bind_eq_ok.mp ok
  obtain ⟨cancelled, isCancelled, ok⟩ := bind_eq_ok.mp ok
  obtain ⟨_, notCancelled, ok⟩ := bind_eq_ok.mp ok
  obtain ⟨_, notCompleted, ok⟩ := bind_eq_ok.mp ok
  obtain ⟨_, -, ok⟩ := bind_eq_ok.mp ok
  cases ok
  rw [refuse_eq_ok] at notCancelled notCompleted
  rw [notCancelled] at isCancelled
  exact ⟨findInvitation_ok isFound, notCompleted, orRaise_ok isCancelled⟩

end Guards

/-- An invitation that is completed or cancelled. -/
def IsClosed (org : MemoryOrganization) (token : InvitationToken) : Prop :=
  ∃ invitation, org.invitations.get? token = some invitation ∧
    (invitation.isCompleted = true ∨ org.isInvitationCancelled invitation = .ok true)

/-- What holds of a later state of the server. -/
structure Follows (org org' : MemoryOrganization) : Prop where
  grow : Grow org.greetingAttempts org'.greetingAttempts
  closed : ∀ token, IsClosed org token → IsClosed org' token

theorem Follows.refl (org : MemoryOrganization) : Follows org org := ⟨.refl _, fun _ closed => closed⟩

theorem Follows.trans {a b c : MemoryOrganization} (first : Follows a b) (second : Follows b c) :
    Follows a c :=
  ⟨first.grow.trans second.grow, fun token closed => second.closed token (first.closed token closed)⟩

section Steps
variable {org org' : MemoryOrganization} {id : GreetingAttemptID}

theorem put_keeps {a a' : MemoryGreetingAttempt} (inv : GreetingInvariant org)
    (found : org.greetingAttempts.get? id = some a) (evolves : Evolves a a') :
    GreetingInvariant (org.putAttempt id a') ∧ Follows org (org.putAttempt id a') := by
  have grow := grow_set found evolves
  refine ⟨⟨keyed_of_grow grow inv.keyed, balanced_of_grow grow inv.balanced, ?_⟩,
    grow, fun _ closed => closed⟩
  intro token invitation isInvitation greeter session isSession
  exact (inv.sessions token invitation isInvitation greeter session isSession).grow grow

theorem start_keeps {joinOrCancel : MemoryGreetingAttempt → MemoryGreetingAttempt}
    (joins : Joins joinOrCancel) {newIds : GreetingAttemptID × GreetingAttemptID}
    (inv : GreetingInvariant org) (distinct : [newIds.1, newIds.2].Nodup)
    (fresh : ∀ id ∈ [newIds.1, newIds.2], org.greetingAttempts.get? id = none)
    {token : InvitationToken} {invitation : MemoryInvitation} (greeter : UserID)
    (found : org.invitations.get? token = some invitation) :
    GreetingInvariant (org.startAttempt (SessionState.newAttempt joinOrCancel · newIds) token
        invitation greeter).2 ∧
      Follows org (org.startAttempt (SessionState.newAttempt joinOrCancel · newIds) token
        invitation greeter).2 := by
  have valid : SessionValid org.greetingAttempts
      (invitation.getGreetingSession greeter).greetingAttempts := by
    unfold MemoryInvitation.getGreetingSession
    cases isSession : invitation.greetingSessions.get? greeter with
    | none => exact ⟨by simp, by simp⟩
    | some session => exact inv.sessions token invitation found greeter session isSession
  obtain ⟨d, ids, a, run, grow, valid'⟩ := @newAttempt_spec _ joins
    ⟨org, invitation.getGreetingSession greeter⟩ newIds inv.keyed valid (by simpa using distinct)
    (fresh _ (by simp)) (fresh _ (by simp))
  simp only [MemoryOrganization.startAttempt, run]
  refine ⟨⟨keyed_of_grow grow inv.keyed, balanced_of_grow grow inv.balanced, ?_⟩,
    grow, ?_⟩
  · intro token' invitation' isInvitation greeter' session isSession
    change (org.invitations.set token _).get? token' = some invitation' at isInvitation
    rcases Dict.found_set rfl isInvitation with ⟨-, rfl⟩ | ⟨-, isInvitation⟩
    · change (invitation.greetingSessions.set greeter _).get? greeter' = some session at isSession
      rw [Dict.get?_set] at isSession
      split at isSession
      · cases isSession
        exact valid'
      · exact (inv.sessions token invitation found greeter' session isSession).grow grow
    · exact (inv.sessions token' invitation' isInvitation greeter' session isSession).grow grow
  · rintro token' ⟨invitation', isInvitation, closed⟩
    by_cases same : token' = token
    · rw [same, found] at isInvitation
      cases isInvitation
      rw [same]
      exact ⟨_, Dict.get?_set_self _ _ _, closed⟩
    · exact ⟨invitation', (Dict.get?_set_of_ne same).trans isInvitation, closed⟩

theorem delete_keeps {token : InvitationToken} {invitation : MemoryInvitation}
    (reason : MemoryInvitationDeletedReason) (inv : GreetingInvariant org)
    (found : org.invitations.get? token = some invitation) (isOpen : IsOpen org invitation) :
    GreetingInvariant (org.deleteInvitation token invitation reason) ∧
      Follows org (org.deleteInvitation token invitation reason) := by
  refine ⟨⟨inv.keyed, inv.balanced, ?_⟩, .refl _, ?_⟩
  · intro token' invitation' isInvitation greeter session isSession
    change (org.invitations.set token _).get? token' = some invitation' at isInvitation
    rcases Dict.found_set rfl isInvitation with ⟨-, rfl⟩ | ⟨-, isInvitation⟩
    · exact inv.sessions token invitation found greeter session isSession
    · exact inv.sessions token' invitation' isInvitation greeter session isSession
  · rintro token' ⟨invitation', isInvitation, closed⟩
    have other : token' ≠ token := by
      rintro rfl
      rw [found] at isInvitation
      cases isInvitation
      rcases closed with completed | cancelled
      · rw [isOpen.1] at completed
        cases completed
      · rw [isOpen.2] at cancelled
        cases cancelled
    exact ⟨invitation', (Dict.get?_set_of_ne other).trans isInvitation, closed⟩

theorem call_keeps (inv : GreetingInvariant org) (call : InviteCall)
    (distinct : call.drawn.Nodup)
    (fresh : ∀ id ∈ call.drawn, org.greetingAttempts.get? id = none) :
    GreetingInvariant (call.perform org).2 ∧ Follows org (call.perform org).2 := by
  have same : GreetingInvariant org ∧ Follows org org := ⟨inv, .refl org⟩
  cases call with
  | greeterStart now author greeter token newIds =>
    simp only [InviteCall.perform, MemoryOrganization.greeterStartGreetingAttempt]
    split
    · exact same
    · rename_i invitation check
      exact start_keeps (joins_greeter now) inv distinct fresh greeter
        (greeterStartCheck_ok check)
  | claimerStart now token greeter newIds =>
    simp only [InviteCall.perform, MemoryOrganization.claimerStartGreetingAttempt]
    split
    · exact same
    · rename_i invitation check
      exact start_keeps (joins_claimer now) inv distinct fresh greeter
        (claimerStartCheck_ok check)
  | greeterCancel now author greeter id reason =>
    simp only [InviteCall.perform, MemoryOrganization.greeterCancelGreetingAttempt]
    split
    · exact same
    · rename_i a check
      obtain ⟨found, active, -⟩ := greeterAttempt_ok check
      exact put_keeps inv found (evolves_marked active rfl rfl rfl rfl)
  | claimerCancel now token id reason =>
    simp only [InviteCall.perform, MemoryOrganization.claimerCancelGreetingAttempt]
    split
    · exact same
    · rename_i a check
      obtain ⟨found, active, -⟩ := claimerAttempt_ok check
      exact put_keeps inv found (evolves_marked active rfl rfl rfl rfl)
  | greeterStep author greeter id stepIndex greeterData =>
    simp only [InviteCall.perform, MemoryOrganization.greeterStep]
    split
    · exact same
    · rename_i a check
      obtain ⟨found, active, -⟩ := greeterAttempt_ok check
      exact put_keeps inv found (evolves_greeterStep active stepIndex greeterData)
  | claimerStep token id stepIndex claimerData =>
    simp only [InviteCall.perform, MemoryOrganization.claimerStep]
    split
    · exact same
    · rename_i a check
      obtain ⟨found, active, -⟩ := claimerAttempt_ok check
      exact put_keeps inv found (evolves_claimerStep active stepIndex claimerData)
  | cancel author token =>
    simp only [InviteCall.perform, MemoryOrganization.cancelInvitation]
    split
    · exact same
    · rename_i invitation check
      obtain ⟨found, isOpen⟩ := cancelCheck_ok check
      exact delete_keeps .cancelled inv found isOpen
  | complete author token =>
    simp only [InviteCall.perform, MemoryOrganization.completeInvitation]
    split
    · exact same
    · rename_i invitation check
      obtain ⟨found, isOpen⟩ := completeCheck_ok check
      exact delete_keeps .finished inv found isOpen

theorem elsewhere_keeps (inv : GreetingInvariant org) (elsewhere : Elsewhere org org') :
    GreetingInvariant org' ∧ Follows org org' := by
  obtain ⟨attempts, kept, created, cancelled⟩ := elsewhere
  refine ⟨⟨attempts ▸ inv.keyed, attempts ▸ inv.balanced, ?_⟩, ?_, ?_⟩
  · intro token invitation isInvitation greeter session isSession
    rw [attempts]
    rcases created token invitation isInvitation with old | ⟨-, noSession⟩
    · exact inv.sessions token invitation old greeter session isSession
    · rw [noSession] at isSession
      cases isSession
  · rw [attempts]
    exact .refl _
  · rintro token ⟨invitation, isInvitation, closed⟩
    refine ⟨invitation, kept token invitation isInvitation, ?_⟩
    rcases closed with completed | isCancelled
    · exact Or.inl completed
    · exact Or.inr (cancelled invitation isCancelled)

theorem run_keeps (inv : GreetingInvariant org) (run : ReflTransGen InviteStep org org') :
    GreetingInvariant org' ∧ Follows org org' := by
  induction run with
  | refl => exact ⟨inv, .refl org⟩
  | tail _ step ih =>
    obtain ⟨kept, follows⟩ := ih
    cases step with
    | call call distinct fresh =>
      obtain ⟨kept', follows'⟩ := call_keeps kept call distinct fresh
      exact ⟨kept', follows.trans follows'⟩
    | elsewhere elsewhere =>
      obtain ⟨kept', follows'⟩ := elsewhere_keeps kept elsewhere
      exact ⟨kept', follows.trans follows'⟩

end Steps

end ParsecCloud.Server

import ParsecCloud.Server.Datamodel
import ParsecCloud.Lib.LockOrder
import ParsecCloud.Lib.Runs
import Mathlib.Algebra.BigOperators.Group.Finset.Piecewise
import Mathlib.Algebra.Order.BigOperators.Group.Finset
import Mathlib.Algebra.Order.BigOperators.Group.List
import Mathlib.Data.List.Pairwise

/- The locks on the topics of an organization (memory/datamodel.py), and the operations that take
   them. A task that finds a lock taken waits for the next release, whichever it is. -/
namespace ParsecCloud.Server
open Certif Runs LockOrder

inductive AdvisoryLock where
  | invitationCreation
  deriving DecidableEq

inductive LockTopic where
  | topic (topic : TopicAndDiscriminant)
  | advisoryLock (lock : AdvisoryLock)
  deriving DecidableEq

namespace LockTopic

def common : LockTopic := .topic .common

def sequester : LockTopic := .topic .sequester

def realm (realmId : VlobID) : LockTopic := .topic (.realm realmId)

def shamirRecovery : LockTopic := .topic .shamirRecovery

end LockTopic

/-- What a use of topics_lock takes. -/
structure LockBatch where
  read : List LockTopic
  write : List LockTopic

def LockBatch.topics (batch : LockBatch) : List LockTopic := batch.read ++ batch.write

/-- The events are numbered. -/
structure TopicLocks where
  topicWriteLocked : Finset LockTopic
  topicReadLocked : LockTopic → Nat
  notifyMeOnTopicLockRelease : Option Nat
  nextEvent : Nat
  isSet : Nat → Bool

namespace TopicLocks
variable (locks : TopicLocks)

def isBlocked (batch : LockBatch) : Bool :=
  batch.topics.any (fun topic => topic ∈ locks.topicWriteLocked) ||
    batch.write.any fun topic => locks.topicReadLocked topic ≠ 0

/-- A new event, which is not set. -/
def newEvent : TopicLocks :=
  { locks with
    notifyMeOnTopicLockRelease := some locks.nextEvent
    nextEvent := locks.nextEvent + 1
    isSet := Function.update locks.isSet locks.nextEvent false }

/-- The event that a blocked task waits for. -/
def waitEvent : Nat × TopicLocks :=
  match locks.notifyMeOnTopicLockRelease with
  | some event => (event, locks)
  | none => (locks.nextEvent, locks.newEvent)

def take (batch : LockBatch) : TopicLocks :=
  { locks with
    topicWriteLocked := locks.topicWriteLocked ∪ batch.write.toFinset
    topicReadLocked := fun topic => locks.topicReadLocked topic + batch.read.count topic }

/-- The event is set, for all those who wait, and another one is put in its place. -/
def notify : TopicLocks :=
  match locks.notifyMeOnTopicLockRelease with
  | some event => { locks with isSet := Function.update locks.isSet event true }.newEvent
  | none => locks

def release (batch : LockBatch) : TopicLocks :=
  notify { locks with
    topicWriteLocked := locks.topicWriteLocked \ batch.write.toFinset
    topicReadLocked := fun topic => locks.topicReadLocked topic - batch.read.count topic }

def free : TopicLocks := ⟨∅, fun _ => 0, none, 0, fun _ => false⟩

end TopicLocks

/-- The operations that take locks, with what their locks depend on. The realms of a revoked user
    are those found under the first lock. -/
inductive LockedOperation where
  | organizationBootstrap
  | createUser
  | createDevice
  | updateUser
  | revokeUser (realmsUserIsPartOf : List VlobID)
  | realmCreate (realmId : VlobID)
  | realmShare (realmId : VlobID)
  | realmUnshare (realmId : VlobID)
  | realmRename (realmId : VlobID)
  | realmRotateKey (realmId : VlobID)
  | vlobCreate (realmId : VlobID)
  | vlobUpdate (realmId : VlobID)
  | blockCreate (realmId : VlobID)
  | inviteNewForUser
  | inviteNewForDevice
  | inviteNewForShamirRecovery
  | shamirSetup
  | shamirDelete
  | sequesterCreateService
  | sequesterRevokeService
  | pkiSubmit
  | pkiReject
  | pkiAccept

/-- The locks in the order they are taken, each inside the one before. -/
def LockedOperation.batches : LockedOperation → List LockBatch
  | organizationBootstrap => [⟨[], [.common]⟩]
  | createUser => [⟨[], [.common]⟩]
  | createDevice => [⟨[], [.common]⟩]
  | updateUser => [⟨[], [.common]⟩]
  | revokeUser realmsUserIsPartOf => [⟨[], [.common]⟩, ⟨realmsUserIsPartOf.map .realm, []⟩]
  | realmCreate realmId => [⟨[.common], []⟩, ⟨[], [.realm realmId]⟩]
  | realmShare realmId => [⟨[.common], []⟩, ⟨[], [.realm realmId]⟩]
  | realmUnshare realmId => [⟨[.common], []⟩, ⟨[], [.realm realmId]⟩]
  | realmRename realmId => [⟨[.common], []⟩, ⟨[], [.realm realmId]⟩]
  | realmRotateKey realmId => [⟨[.common], []⟩, ⟨[.sequester], [.realm realmId]⟩]
  | vlobCreate realmId => [⟨[.common, .realm realmId], []⟩]
  | vlobUpdate realmId => [⟨[.common], []⟩, ⟨[.realm realmId], []⟩]
  | blockCreate realmId => [⟨[.common, .realm realmId], []⟩]
  | inviteNewForUser => [⟨[.common], []⟩, ⟨[], [.advisoryLock .invitationCreation]⟩]
  | inviteNewForDevice => [⟨[.common], []⟩, ⟨[], [.advisoryLock .invitationCreation]⟩]
  | inviteNewForShamirRecovery => [⟨[.common], []⟩, ⟨[], [.advisoryLock .invitationCreation]⟩]
  | shamirSetup => [⟨[.common], [.shamirRecovery]⟩]
  | shamirDelete => [⟨[.common], [.shamirRecovery]⟩]
  | sequesterCreateService => [⟨[], [.sequester]⟩]
  | sequesterRevokeService => [⟨[], [.sequester]⟩]
  | pkiSubmit => [⟨[.common], []⟩]
  | pkiReject => [⟨[.common], []⟩]
  | pkiAccept => [⟨[], [.common]⟩]

inductive TaskPhase where
  | running
  | waiting (event : Nat)

/-- The locks a task holds, the last one first, and those it has still to take. -/
structure LockTask where
  held : List LockBatch
  wanted : List LockBatch
  phase : TaskPhase

structure LockServer (ι : Type) where
  locks : TopicLocks
  tasks : ι → LockTask

inductive LockStep (ι : Type) where
  | acquire (task : ι)
  | wait (task : ι)
  | returns (task : ι)
  | release (task : ι)

namespace LockServer
variable {ι : Type} [DecidableEq ι]

def CanRun (s : LockServer ι) (task : ι) : Prop :=
  match (s.tasks task).phase with
  | .running => True
  | .waiting event => s.locks.isSet event = true

def setTask (s : LockServer ι) (locks : TopicLocks) (task : ι) (new : LockTask) : LockServer ι :=
  ⟨locks, Function.update s.tasks task new⟩

/-- A task that runs, or whose event is set, looks at all the locks it wants; one that has nothing
    left to take leaves the last lock it took. It may also return early, or be cancelled. -/
inductive Step (s : LockServer ι) : LockStep ι → LockServer ι → Prop where
  | acquire (task : ι) {batch : LockBatch} {rest : List LockBatch} (canRun : s.CanRun task)
      (wants : (s.tasks task).wanted = batch :: rest) (free : s.locks.isBlocked batch = false) :
      Step s (.acquire task)
        (s.setTask (s.locks.take batch) task ⟨batch :: (s.tasks task).held, rest, .running⟩)
  | wait (task : ι) {batch : LockBatch} {rest : List LockBatch} (canRun : s.CanRun task)
      (wants : (s.tasks task).wanted = batch :: rest) (taken : s.locks.isBlocked batch = true) :
      Step s (.wait task) (s.setTask s.locks.waitEvent.2 task
        ⟨(s.tasks task).held, batch :: rest, .waiting s.locks.waitEvent.1⟩)
  | returns (task : ι) :
      Step s (.returns task) (s.setTask s.locks task ⟨(s.tasks task).held, [], .running⟩)
  | release (task : ι) {batch : LockBatch} {rest : List LockBatch}
      (running : (s.tasks task).phase = .running) (done : (s.tasks task).wanted = [])
      (holds : (s.tasks task).held = batch :: rest) :
      Step s (.release task) (s.setTask (s.locks.release batch) task ⟨rest, [], .running⟩)

/-- The operations, before they begin. -/
def start (operations : ι → LockedOperation) : LockServer ι :=
  ⟨.free, fun task => ⟨[], (operations task).batches, .running⟩⟩

end LockServer

namespace LockTopic

/-- The common topic comes before the others. -/
def rank (topic : LockTopic) : Nat := if topic = common then 0 else 1

theorem rank_le (topic : LockTopic) : topic.rank ≤ 1 := by
  unfold rank
  split
  · omega
  · omega

end LockTopic

/-- The topics of a batch come before those of the next ones. -/
def LockBatch.Before (first second : LockBatch) : Prop :=
  ∀ x ∈ first.topics, ∀ y ∈ second.topics, x.rank < y.rank

theorem pairwise_common {first second : LockBatch} (isCommon : first.topics = [.common])
    (others : ∀ topic ∈ second.topics, topic ≠ .common) :
    [first, second].Pairwise LockBatch.Before := by
  rw [List.pairwise_pair]
  intro x member y isOther
  rw [isCommon] at member
  rw [List.mem_singleton.mp member, LockTopic.rank, LockTopic.rank, if_pos rfl,
    if_neg (others y isOther)]
  exact Nat.one_pos

theorem batches_ordered (operation : LockedOperation) :
    operation.batches.Pairwise LockBatch.Before := by
  cases operation with
  | revokeUser realms =>
    apply pairwise_common rfl
    intro topic isRealm
    rw [LockBatch.topics, List.append_nil] at isRealm
    obtain ⟨realmId, -, rfl⟩ := List.mem_map.mp isRealm
    simp [LockTopic.common, LockTopic.realm]
  | _ =>
    first
    | exact List.pairwise_singleton _ _
    | exact pairwise_common rfl (by simp [LockBatch.topics, LockTopic.common, LockTopic.realm,
        LockTopic.sequester])

section Invariant
variable {ι : Type} [DecidableEq ι] [Fintype ι] {s s' : LockServer ι}

/-- The read locks of a task on a topic. -/
def LockTask.readCount (task : LockTask) (topic : LockTopic) : Nat :=
  task.held.foldr (fun batch count => batch.read.count topic + count) 0

theorem LockTask.count_le_readCount (task : LockTask) {batch : LockBatch} (topic : LockTopic)
    (isHeld : batch ∈ task.held) : batch.read.count topic ≤ task.readCount topic := by
  unfold LockTask.readCount
  generalize task.held = held at isHeld
  induction held with
  | nil => cases isHeld
  | cons first held previous =>
    rw [List.foldr_cons]
    cases isHeld with
    | head => omega
    | tail _ isHeld =>
      have fewer := previous isHeld
      omega

theorem LockTask.exists_read (task : LockTask) (topic : LockTopic)
    (positive : task.readCount topic ≠ 0) : ∃ batch ∈ task.held, topic ∈ batch.read := by
  unfold LockTask.readCount at positive
  generalize task.held = held at positive
  induction held with
  | nil => exact absurd rfl positive
  | cons first held previous =>
    by_cases isRead : topic ∈ first.read
    · exact ⟨first, List.mem_cons_self, isRead⟩
    · rw [List.foldr_cons, List.count_eq_zero_of_not_mem isRead, Nat.zero_add] at positive
      obtain ⟨batch, isHeld, isRead⟩ := previous positive
      exact ⟨batch, List.mem_cons_of_mem _ isHeld, isRead⟩

/-- A task waits for an event that is set, or for the current one while its locks are taken. -/
def Awaits (locks : TopicLocks) (task : LockTask) (event : Nat) : Prop :=
  event < locks.nextEvent ∧ ∃ batch rest, task.wanted = batch :: rest ∧
    (locks.isSet event = true ∨
      locks.notifyMeOnTopicLockRelease = some event ∧ locks.isBlocked batch = true)

structure LockInvariant (s : LockServer ι) : Prop where
  ordered : ∀ task, ((s.tasks task).held.reverse ++ (s.tasks task).wanted).Pairwise
    LockBatch.Before
  written : ∀ topic, topic ∈ s.locks.topicWriteLocked ↔
    ∃ task, ∃ batch ∈ (s.tasks task).held, topic ∈ batch.write
  counted : ∀ topic, s.locks.topicReadLocked topic = ∑ task, (s.tasks task).readCount topic
  exclusive : ∀ task task' batch batch' topic, batch ∈ (s.tasks task).held →
    batch' ∈ (s.tasks task').held → topic ∈ batch.write → topic ∈ batch'.topics → task = task'
  current : ∀ event, s.locks.notifyMeOnTopicLockRelease = some event → event < s.locks.nextEvent
  awaits : ∀ task event, (s.tasks task).phase = .waiting event →
    Awaits s.locks (s.tasks task) event

theorem isBlocked_eq_false {locks : TopicLocks} {batch : LockBatch} :
    locks.isBlocked batch = false ↔
      (∀ topic ∈ batch.topics, topic ∉ locks.topicWriteLocked) ∧
      ∀ topic ∈ batch.write, locks.topicReadLocked topic = 0 := by
  simp [TopicLocks.isBlocked]

theorem isBlocked_mono {locks locks' : TopicLocks} {batch : LockBatch}
    (written : locks.topicWriteLocked ⊆ locks'.topicWriteLocked)
    (counted : ∀ topic, locks.topicReadLocked topic ≤ locks'.topicReadLocked topic)
    (isBlocked : locks.isBlocked batch = true) : locks'.isBlocked batch = true := by
  rw [← Bool.not_eq_false] at isBlocked ⊢
  intro free
  apply isBlocked
  rw [isBlocked_eq_false] at free ⊢
  constructor
  · intro topic isTopic isWritten
    exact free.1 topic isTopic (written isWritten)
  · intro topic isTopic
    have none := free.2 topic isTopic
    have fewer := counted topic
    omega

omit [Fintype ι] in
@[simp] theorem setTask_locks (locks : TopicLocks) (task : ι) (new : LockTask) :
    (s.setTask locks task new).locks = locks := rfl

omit [Fintype ι] in
theorem setTask_tasks (locks : TopicLocks) (task other : ι) (new : LockTask) :
    (s.setTask locks task new).tasks other = if other = task then new else s.tasks other := by
  exact Function.update_apply s.tasks task new other

omit [DecidableEq ι] in
theorem LockInvariant.readLocked_pos (inv : LockInvariant s) {task : ι} {batch : LockBatch}
    {topic : LockTopic} (isHeld : batch ∈ (s.tasks task).held) (isRead : topic ∈ batch.read) :
    0 < s.locks.topicReadLocked topic := by
  rw [inv.counted topic]
  have counted : 0 < batch.read.count topic := List.count_pos_iff.mpr isRead
  have inTask : batch.read.count topic ≤ (s.tasks task).readCount topic :=
    (s.tasks task).count_le_readCount topic isHeld
  have inAll : (s.tasks task).readCount topic ≤ ∑ task, (s.tasks task).readCount topic :=
    Finset.single_le_sum (f := fun other => (s.tasks other).readCount topic)
      (fun _ _ => Nat.zero_le _) (Finset.mem_univ task)
  omega

theorem sum_readCount_setTask (locks : TopicLocks) (task : ι) (new : LockTask) (topic : LockTopic) :
    ∑ other, ((s.setTask locks task new).tasks other).readCount topic +
        (s.tasks task).readCount topic =
      ∑ other, (s.tasks other).readCount topic + new.readCount topic := by
  have changed : ∀ other, ((s.setTask locks task new).tasks other).readCount topic =
      Function.update (fun other => (s.tasks other).readCount topic) task (new.readCount topic)
        other := by
    intro other
    rw [setTask_tasks, Function.update_apply]
    split
    · rfl
    · rfl
  rw [Finset.sum_congr rfl fun other _ => changed other,
    Finset.sum_update_of_mem (Finset.mem_univ task),
    Finset.sum_eq_add_sum_sdiff_singleton_of_mem (Finset.mem_univ task)
      (fun other => (s.tasks other).readCount topic)]
  omega

omit [Fintype ι] in
theorem held_setTask {locks : TopicLocks} {task other : ι} {new : LockTask} {batch : LockBatch}
    (isHeld : batch ∈ ((s.setTask locks task new).tasks other).held) :
    other = task ∧ batch ∈ new.held ∨ batch ∈ (s.tasks other).held := by
  rw [setTask_tasks] at isHeld
  split at isHeld
  · rename_i same
    exact Or.inl ⟨same, isHeld⟩
  · exact Or.inr isHeld

section Events
variable {locks : TopicLocks} {task : LockTask} {event : Nat}

theorem Awaits.take (awaits : Awaits locks task event) (batch : LockBatch) :
    Awaits (locks.take batch) task event := by
  obtain ⟨old, wanted, rest, isWanted, isSet | ⟨current, isBlocked⟩⟩ := awaits
  · exact ⟨old, wanted, rest, isWanted, Or.inl isSet⟩
  · refine ⟨old, wanted, rest, isWanted, Or.inr ⟨current, ?_⟩⟩
    apply isBlocked_mono _ _ isBlocked
    · exact Finset.subset_union_left
    · intro topic
      exact Nat.le_add_right _ _

theorem isSet_newEvent (old : event < locks.nextEvent) :
    locks.newEvent.isSet event = locks.isSet event := by
  have apart : event ≠ locks.nextEvent := by omega
  exact Function.update_of_ne apart _ _

theorem Awaits.waitEvent (awaits : Awaits locks task event) :
    Awaits locks.waitEvent.2 task event := by
  unfold TopicLocks.waitEvent
  cases isCurrent : locks.notifyMeOnTopicLockRelease with
  | some current => exact awaits
  | none =>
    obtain ⟨old, wanted, rest, isWanted, isSet | ⟨current, -⟩⟩ := awaits
    · refine ⟨Nat.lt_succ_of_lt old, wanted, rest, isWanted, Or.inl ?_⟩
      exact (isSet_newEvent old).trans isSet
    · rw [isCurrent] at current
      cases current

theorem Awaits.release (awaits : Awaits locks task event) (batch : LockBatch) :
    Awaits (locks.release batch) task event := by
  unfold TopicLocks.release TopicLocks.notify
  obtain ⟨old, wanted, rest, isWanted, awaited⟩ := awaits
  cases isCurrent : locks.notifyMeOnTopicLockRelease with
  | none =>
    rcases awaited with isSet | ⟨current, -⟩
    · exact ⟨old, wanted, rest, isWanted, Or.inl isSet⟩
    · rw [isCurrent] at current
      cases current
  | some current =>
    refine ⟨Nat.lt_succ_of_lt old, wanted, rest, isWanted, Or.inl ?_⟩
    have apart : event ≠ locks.nextEvent := by omega
    change Function.update (Function.update locks.isSet current true) locks.nextEvent false event =
      true
    rw [Function.update_of_ne apart, Function.update_apply]
    rcases awaited with isSet | ⟨isThis, -⟩
    · rw [isSet, ite_self]
    · rw [isCurrent] at isThis
      cases isThis
      exact if_pos rfl

theorem release_topicWriteLocked (batch : LockBatch) :
    (locks.release batch).topicWriteLocked = locks.topicWriteLocked \ batch.write.toFinset := by
  unfold TopicLocks.release TopicLocks.notify
  cases locks.notifyMeOnTopicLockRelease with
  | none => rfl
  | some current => rfl

theorem release_topicReadLocked (batch : LockBatch) (topic : LockTopic) :
    (locks.release batch).topicReadLocked topic =
      locks.topicReadLocked topic - batch.read.count topic := by
  unfold TopicLocks.release TopicLocks.notify
  cases locks.notifyMeOnTopicLockRelease with
  | none => rfl
  | some current => rfl

theorem waitEvent_topicWriteLocked :
    locks.waitEvent.2.topicWriteLocked = locks.topicWriteLocked := by
  unfold TopicLocks.waitEvent
  cases locks.notifyMeOnTopicLockRelease with
  | none => rfl
  | some current => rfl

theorem waitEvent_topicReadLocked :
    locks.waitEvent.2.topicReadLocked = locks.topicReadLocked := by
  unfold TopicLocks.waitEvent
  cases locks.notifyMeOnTopicLockRelease with
  | none => rfl
  | some current => rfl

end Events

theorem awaits_setTask {locks : TopicLocks} {task : ι} {new : LockTask}
    (inv : LockInvariant s)
    (kept : ∀ waiting event, Awaits s.locks waiting event → Awaits locks waiting event)
    (own : ∀ event, new.phase = .waiting event → Awaits locks new event) (other : ι) (event : Nat)
    (waits : ((s.setTask locks task new).tasks other).phase = .waiting event) :
    Awaits locks ((s.setTask locks task new).tasks other) event := by
  rw [setTask_tasks] at waits ⊢
  by_cases same : other = task
  · rw [if_pos same] at waits ⊢
    exact own event waits
  · rw [if_neg same] at waits ⊢
    exact kept _ event (inv.awaits other event waits)

omit [Fintype ι] in
theorem ordered_setTask {locks : TopicLocks} {task : ι} {new : LockTask}
    (ordered : ∀ other, ((s.tasks other).held.reverse ++ (s.tasks other).wanted).Pairwise
      LockBatch.Before)
    (own : (new.held.reverse ++ new.wanted).Pairwise LockBatch.Before) (other : ι) :
    (((s.setTask locks task new).tasks other).held.reverse ++
      ((s.setTask locks task new).tasks other).wanted).Pairwise LockBatch.Before := by
  rw [setTask_tasks]
  split
  · exact own
  · exact ordered other

theorem LockInvariant.acquire (inv : LockInvariant s) {task : ι} {batch : LockBatch}
    {rest : List LockBatch} (wants : (s.tasks task).wanted = batch :: rest)
    (free : s.locks.isBlocked batch = false) :
    LockInvariant
      (s.setTask (s.locks.take batch) task ⟨batch :: (s.tasks task).held, rest, .running⟩) := by
  obtain ⟨notWritten, notRead⟩ := isBlocked_eq_false.mp free
  constructor
  · apply ordered_setTask inv.ordered
    have ordered := inv.ordered task
    rw [wants] at ordered
    simpa using ordered
  · intro topic
    rw [setTask_locks, TopicLocks.take, Finset.mem_union, List.mem_toFinset, inv.written]
    constructor
    · intro isWritten
      rcases isWritten with ⟨other, found, isHeld, isWrite⟩ | isWrite
      · refine ⟨other, found, ?_, isWrite⟩
        rw [setTask_tasks]
        split
        · rename_i same
          rw [same] at isHeld
          exact List.mem_cons_of_mem _ isHeld
        · exact isHeld
      · refine ⟨task, batch, ?_, isWrite⟩
        rw [setTask_tasks, if_pos rfl]
        exact List.mem_cons_self
    · rintro ⟨other, found, isHeld, isWrite⟩
      rcases held_setTask isHeld with ⟨rfl, isHeld⟩ | isHeld
      · rcases List.mem_cons.mp isHeld with rfl | isHeld
        · exact Or.inr isWrite
        · exact Or.inl ⟨_, found, isHeld, isWrite⟩
      · exact Or.inl ⟨other, found, isHeld, isWrite⟩
  · intro topic
    have sum := sum_readCount_setTask (s := s) (s.locks.take batch) task
      ⟨batch :: (s.tasks task).held, rest, .running⟩ topic
    have counted := inv.counted topic
    have new : (LockTask.mk (batch :: (s.tasks task).held) rest .running).readCount topic =
        batch.read.count topic + (s.tasks task).readCount topic := rfl
    change s.locks.topicReadLocked topic + batch.read.count topic = _
    omega
  · intro first second one other topic isFirst isSecond isWrite isTopic
    by_cases same : first = second
    · exact same
    · exfalso
      rcases held_setTask isFirst with ⟨rfl, isFirst⟩ | wasFirst
      · rcases held_setTask isSecond with ⟨rfl, -⟩ | wasSecond
        · exact same rfl
        · rcases List.mem_cons.mp isFirst with rfl | wasFirst
          · rcases List.mem_append.mp isTopic with isRead | isWrite'
            · have positive := inv.readLocked_pos wasSecond isRead
              have none := notRead topic isWrite
              omega
            · apply notWritten topic (List.mem_append_right _ isWrite)
              exact (inv.written topic).mpr ⟨second, other, wasSecond, isWrite'⟩
          · exact same (inv.exclusive _ second one other topic wasFirst wasSecond isWrite
              isTopic)
      · have isTaken := (inv.written topic).mpr ⟨first, one, wasFirst, isWrite⟩
        rcases held_setTask isSecond with ⟨rfl, isSecond⟩ | wasSecond
        · rcases List.mem_cons.mp isSecond with rfl | wasSecond
          · exact notWritten topic isTopic isTaken
          · exact same (inv.exclusive first _ one other topic wasFirst wasSecond isWrite
              isTopic)
        · exact same (inv.exclusive first second one other topic wasFirst wasSecond isWrite
            isTopic)
  · exact inv.current
  · apply awaits_setTask inv
    · intro waiting event awaits
      exact awaits.take batch
    · intro event waits
      cases waits

theorem LockInvariant.sameHeld (inv : LockInvariant s) {locks : TopicLocks} {task : ι}
    {new : LockTask} (same : new.held = (s.tasks task).held)
    (wanted : List.Sublist new.wanted (s.tasks task).wanted)
    (written : locks.topicWriteLocked = s.locks.topicWriteLocked)
    (counted : locks.topicReadLocked = s.locks.topicReadLocked)
    (current : ∀ event, locks.notifyMeOnTopicLockRelease = some event → event < locks.nextEvent)
    (awaits : ∀ other event, ((s.setTask locks task new).tasks other).phase = .waiting event →
      Awaits locks ((s.setTask locks task new).tasks other) event) :
    LockInvariant (s.setTask locks task new) := by
  have held : ∀ other, ((s.setTask locks task new).tasks other).held = (s.tasks other).held := by
    intro other
    rw [setTask_tasks]
    split
    · rename_i isTask
      rw [isTask]
      exact same
    · rfl
  constructor
  · apply ordered_setTask inv.ordered
    rw [same]
    exact (inv.ordered task).sublist (List.Sublist.append_left wanted _)
  · intro topic
    rw [setTask_locks, written]
    simp only [held]
    exact inv.written topic
  · intro topic
    rw [setTask_locks, counted]
    simp only [LockTask.readCount, held]
    exact inv.counted topic
  · simp only [held]
    exact inv.exclusive
  · exact current
  · exact awaits

omit [DecidableEq ι] [Fintype ι] in
theorem waitEvent_lt (current : ∀ event, s.locks.notifyMeOnTopicLockRelease = some event →
      event < s.locks.nextEvent) :
    s.locks.waitEvent.1 < s.locks.waitEvent.2.nextEvent ∧
      s.locks.waitEvent.2.notifyMeOnTopicLockRelease = some s.locks.waitEvent.1 := by
  unfold TopicLocks.waitEvent
  cases isCurrent : s.locks.notifyMeOnTopicLockRelease with
  | some event => exact ⟨current event isCurrent, isCurrent⟩
  | none => exact ⟨Nat.lt_succ_self _, rfl⟩

theorem LockInvariant.wait (inv : LockInvariant s) {task : ι} {batch : LockBatch}
    {rest : List LockBatch} (wants : (s.tasks task).wanted = batch :: rest)
    (taken : s.locks.isBlocked batch = true) :
    LockInvariant (s.setTask s.locks.waitEvent.2 task
      ⟨(s.tasks task).held, batch :: rest, .waiting s.locks.waitEvent.1⟩) := by
  obtain ⟨old, isCurrent⟩ := waitEvent_lt inv.current
  apply inv.sameHeld
  · rfl
  · rw [wants]
  · exact waitEvent_topicWriteLocked
  · exact waitEvent_topicReadLocked
  · intro event isEvent
    rw [isCurrent] at isEvent
    cases isEvent
    exact old
  · apply awaits_setTask inv
    · intro waiting event awaits
      exact awaits.waitEvent
    · intro event waits
      cases waits
      refine ⟨old, batch, rest, rfl, Or.inr ⟨isCurrent, ?_⟩⟩
      apply isBlocked_mono _ _ taken
      · rw [waitEvent_topicWriteLocked]
      · intro topic
        rw [waitEvent_topicReadLocked]

theorem LockInvariant.returns (inv : LockInvariant s) (task : ι) :
    LockInvariant (s.setTask s.locks task ⟨(s.tasks task).held, [], .running⟩) := by
  apply inv.sameHeld
  · rfl
  · exact List.nil_sublist _
  · rfl
  · rfl
  · exact inv.current
  · apply awaits_setTask inv
    · intro waiting event awaits
      exact awaits
    · intro event waits
      cases waits

omit [DecidableEq ι] in
theorem LockInvariant.apart (inv : LockInvariant s) {task : ι} {batch found : LockBatch}
    {rest : List LockBatch} (holds : (s.tasks task).held = batch :: rest) (isHeld : found ∈ rest)
    {topic : LockTopic} (inBatch : topic ∈ batch.topics) (inFound : topic ∈ found.topics) :
    False := by
  have ordered := (List.pairwise_append.mp (inv.ordered task)).1
  rw [holds, List.reverse_cons] at ordered
  have before := (List.pairwise_append.mp ordered).2.2 found (List.mem_reverse.mpr isHeld) batch
    (List.mem_singleton_self batch)
  exact Nat.lt_irrefl _ (before topic inFound topic inBatch)

theorem LockInvariant.release (inv : LockInvariant s) {task : ι} {batch : LockBatch}
    {rest : List LockBatch} (holds : (s.tasks task).held = batch :: rest) :
    LockInvariant (s.setTask (s.locks.release batch) task ⟨rest, [], .running⟩) := by
  have isHead : batch ∈ (s.tasks task).held := by
    rw [holds]
    exact List.mem_cons_self
  have wasHeld : ∀ {other found},
      found ∈ ((s.setTask (s.locks.release batch) task ⟨rest, [], .running⟩).tasks other).held →
        found ∈ (s.tasks other).held := by
    intro other found isHeld
    rcases held_setTask isHeld with ⟨rfl, inRest⟩ | wasHeld
    · rw [holds]
      exact List.mem_cons_of_mem _ inRest
    · exact wasHeld
  constructor
  · apply ordered_setTask inv.ordered
    have ordered := inv.ordered task
    rw [holds] at ordered
    refine ordered.sublist ?_
    rw [List.reverse_cons, List.append_assoc]
    exact List.Sublist.append_left (List.nil_sublist _) _
  · intro topic
    rw [setTask_locks, release_topicWriteLocked, Finset.mem_sdiff, List.mem_toFinset,
      inv.written]
    constructor
    · rintro ⟨⟨other, found, isHeld, isWrite⟩, notReleased⟩
      refine ⟨other, found, ?_, isWrite⟩
      rw [setTask_tasks]
      split
      · rename_i same
        rw [same, holds] at isHeld
        rcases List.mem_cons.mp isHeld with rfl | isHeld
        · exact absurd isWrite notReleased
        · exact isHeld
      · exact isHeld
    · rintro ⟨other, found, isHeld, isWrite⟩
      refine ⟨⟨other, found, wasHeld isHeld, isWrite⟩, fun isReleased => ?_⟩
      have inBatch : topic ∈ batch.topics := List.mem_append_right _ isReleased
      have same : other = task :=
        inv.exclusive other task found batch topic (wasHeld isHeld) isHead isWrite inBatch
      rw [setTask_tasks, if_pos same] at isHeld
      exact inv.apart holds isHeld inBatch (List.mem_append_right _ isWrite)
  · intro topic
    have sum := sum_readCount_setTask (s := s) (s.locks.release batch) task
      ⟨rest, [], .running⟩ topic
    have counted := inv.counted topic
    have old : (s.tasks task).readCount topic =
        batch.read.count topic + (LockTask.mk rest [] .running).readCount topic := by
      rw [LockTask.readCount, holds]
      rfl
    rw [setTask_locks, release_topicReadLocked]
    omega
  · intro first second one other topic isFirst isSecond
    exact inv.exclusive first second one other topic (wasHeld isFirst) (wasHeld isSecond)
  · intro event isCurrent
    rw [setTask_locks] at isCurrent ⊢
    unfold TopicLocks.release TopicLocks.notify at isCurrent ⊢
    cases current : s.locks.notifyMeOnTopicLockRelease with
    | none =>
      rw [current] at isCurrent
      cases isCurrent
    | some old =>
      rw [current] at isCurrent
      cases isCurrent
      exact Nat.lt_succ_self _
  · apply awaits_setTask inv
    · intro waiting event awaits
      exact awaits.release batch
    · intro event waits
      cases waits

theorem LockInvariant.step {step : LockStep ι} (inv : LockInvariant s)
    (taken : s.Step step s') : LockInvariant s' := by
  cases taken with
  | acquire task canRun wants free => exact inv.acquire wants free
  | wait task canRun wants taken => exact inv.wait wants taken
  | returns task => exact inv.returns task
  | release task running done holds => exact inv.release holds

omit [DecidableEq ι] in
theorem LockInvariant.start (operations : ι → LockedOperation) :
    LockInvariant (LockServer.start operations) := by
  constructor
  · intro task
    exact batches_ordered (operations task)
  · intro topic
    simp [LockServer.start, TopicLocks.free]
  · intro topic
    simp [LockServer.start, TopicLocks.free, LockTask.readCount]
  · intro task task' batch batch' topic isHeld
    cases isHeld
  · intro event isCurrent
    cases isCurrent
  · intro task event waits
    cases waits

/-- A task that still has locks to take or to leave. -/
def LockTask.Unfinished (task : LockTask) : Prop := task.held ≠ [] ∨ task.wanted ≠ []

def LockServer.Blocked (s : LockServer ι) (task : ι) : Prop :=
  ∃ batch rest, (s.tasks task).wanted = batch :: rest ∧ s.locks.isBlocked batch = true

omit [DecidableEq ι] in
theorem LockInvariant.conflict (inv : LockInvariant s) {task : ι}
    (isBlocked : s.Blocked task) : ∃ holder topic,
      (∃ batch rest, (s.tasks task).wanted = batch :: rest ∧ topic ∈ batch.topics) ∧
      ∃ batch ∈ (s.tasks holder).held, topic ∈ batch.topics := by
  obtain ⟨batch, rest, wants, isBlocked⟩ := isBlocked
  rw [TopicLocks.isBlocked, Bool.or_eq_true, List.any_eq_true, List.any_eq_true] at isBlocked
  rcases isBlocked with ⟨topic, isTopic, isWritten⟩ | ⟨topic, isTopic, isRead⟩
  · obtain ⟨holder, found, isHeld, isWrite⟩ :=
      (inv.written topic).mp (of_decide_eq_true isWritten)
    exact ⟨holder, topic, ⟨batch, rest, wants, isTopic⟩, found, isHeld,
      List.mem_append_right _ isWrite⟩
  · have counted := of_decide_eq_true isRead
    rw [inv.counted topic] at counted
    obtain ⟨holder, -, positive⟩ := Finset.exists_ne_zero_of_sum_ne_zero counted
    obtain ⟨found, isHeld, isRead⟩ := (s.tasks holder).exists_read topic positive
    exact ⟨holder, topic, ⟨batch, rest, wants, List.mem_append_right _ isTopic⟩, found, isHeld,
      List.mem_append_left _ isRead⟩

/-- The chain of those who wait ends at a task that goes on. -/
theorem LockInvariant.progress (inv : LockInvariant s) {task : ι}
    (unfinished : (s.tasks task).Unfinished) :
    ∃ other s', s.Step (.acquire other) s' ∨ s.Step (.release other) s' := by
  have ordered : ∀ other x y, (∃ batch ∈ (s.tasks other).held, x ∈ batch.topics) →
      (∃ batch rest, (s.tasks other).wanted = batch :: rest ∧ y ∈ batch.topics) →
      x.rank < y.rank := by
    rintro other x y ⟨held, isHeld, inHeld⟩ ⟨batch, rest, wants, inBatch⟩
    have before := (List.pairwise_append.mp (inv.ordered other)).2.2 held
      (List.mem_reverse.mpr isHeld) batch (by rw [wants]; exact List.mem_cons_self)
    exact before x inHeld y inBatch
  obtain ⟨other, free, isThis⟩ := exists_unblocked LockTopic.rank_le ordered
    (fun _ isBlocked => inv.conflict isBlocked) task
  have unfinished : (s.tasks other).Unfinished := by
    rcases isThis with rfl | ⟨topic, batch, isHeld, -⟩
    · exact unfinished
    · exact Or.inl (List.ne_nil_of_mem isHeld)
  cases wants : (s.tasks other).wanted with
  | nil =>
    have running : (s.tasks other).phase = .running := by
      cases phase : (s.tasks other).phase with
      | running => rfl
      | waiting event =>
        obtain ⟨-, batch, rest, isWanted, -⟩ := inv.awaits other event phase
        rw [wants] at isWanted
        cases isWanted
    cases holds : (s.tasks other).held with
    | nil =>
      rcases unfinished with holding | wanting
      · exact absurd holds holding
      · exact absurd wants wanting
    | cons batch rest => exact ⟨other, _, Or.inr (.release other running wants holds)⟩
  | cons batch rest =>
    have notBlocked : s.locks.isBlocked batch = false := by
      rw [← Bool.not_eq_true]
      intro isBlocked
      exact free ⟨batch, rest, wants, isBlocked⟩
    have canRun : s.CanRun other := by
      unfold LockServer.CanRun
      cases phase : (s.tasks other).phase with
      | running => trivial
      | waiting event =>
        obtain ⟨-, batch', rest', isWanted, isSet | ⟨-, isBlocked⟩⟩ :=
          inv.awaits other event phase
        · exact isSet
        · exact absurd ⟨batch', rest', isWanted, isBlocked⟩ free
    exact ⟨other, _, Or.inl (.acquire other canRun wants notBlocked)⟩

/-- The locks as they should be: a topic that is written has one holder; a task takes its locks
    when none of them is taken, also after it has waited; a task waits for an event that is set or
    for the current one, while it is blocked; and some task goes on as long as one is not done. -/
structure LocksSound (s : LockServer ι) : Prop where
  exclusive : ∀ task task' batch batch' topic, task ≠ task' → batch ∈ (s.tasks task).held →
    batch' ∈ (s.tasks task').held → topic ∈ batch.write → topic ∉ batch'.topics
  rechecked : ∀ task s', s.Step (.acquire task) s' → ∃ batch rest,
    (s.tasks task).wanted = batch :: rest ∧ ∀ other, ∀ held ∈ (s.tasks other).held,
      (∀ topic ∈ batch.topics, topic ∉ held.write) ∧ ∀ topic ∈ batch.write, topic ∉ held.topics
  notified : ∀ task event, (s.tasks task).phase = .waiting event →
    s.locks.isSet event = true ∨
      s.locks.notifyMeOnTopicLockRelease = some event ∧ s.Blocked task
  progress : ∀ task, (s.tasks task).Unfinished →
    ∃ other s', s.Step (.acquire other) s' ∨ s.Step (.release other) s'

/-- For all operations at once, in every order of their steps. -/
theorem topic_locks_sound (operations : ι → LockedOperation)
    (run : Run LockServer.Step (fun _ _ => True) (LockServer.start operations) s) :
    LocksSound s := by
  have inv : LockInvariant s := by
    apply run.keeps (LockInvariant.start operations)
    intro _ _ _ inv _ taken
    exact inv.step taken
  constructor
  · intro task task' batch batch' topic apart isHeld isHeld' isWrite isTopic
    exact apart (inv.exclusive task task' batch batch' topic isHeld isHeld' isWrite isTopic)
  · intro task s' taken
    cases taken with
    | acquire task canRun wants free =>
      obtain ⟨notWritten, notRead⟩ := isBlocked_eq_false.mp free
      refine ⟨_, _, wants, fun other held isHeld => ⟨?_, ?_⟩⟩
      · intro topic isTopic isWrite
        exact notWritten topic isTopic ((inv.written topic).mpr ⟨other, held, isHeld, isWrite⟩)
      · intro topic isWrite isTopic
        rcases List.mem_append.mp isTopic with isRead | isWritten
        · have positive := inv.readLocked_pos isHeld isRead
          have none := notRead topic isWrite
          omega
        · exact notWritten topic (List.mem_append_right _ isWrite)
            ((inv.written topic).mpr ⟨other, held, isHeld, isWritten⟩)
  · intro task event waits
    obtain ⟨-, batch, rest, wants, isSet | ⟨current, isBlocked⟩⟩ :=
      inv.awaits task event waits
    · exact Or.inl isSet
    · exact Or.inr ⟨current, batch, rest, wants, isBlocked⟩
  · intro task unfinished
    exact inv.progress unfinished

end Invariant

/-- A user is revoked while a realm is renamed. -/
def revokeAndRename : Fin 2 → LockedOperation
  | 0 => .revokeUser [⟨5⟩]
  | 1 => .realmRename ⟨5⟩

theorem topic_locks_sound_of_two :
    ∃ s : LockServer (Fin 2), LocksSound s ∧ (s.tasks 0).held = [⟨[], [.common]⟩] ∧
      (s.tasks 1).phase = .waiting 0 := by
  have acquired : Run LockServer.Step (fun _ _ => True) (LockServer.start revokeAndRename) _ :=
    .step .start trivial (.acquire 0 trivial rfl (by decide))
  have waited : Run LockServer.Step (fun _ _ => True) (LockServer.start revokeAndRename) _ :=
    .step acquired trivial (.wait 1 trivial rfl (by decide))
  exact ⟨_, topic_locks_sound revokeAndRename waited, rfl, rfl⟩

end ParsecCloud.Server

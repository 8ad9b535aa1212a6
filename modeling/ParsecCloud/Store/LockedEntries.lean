import ParsecCloud.Lib.Events
import ParsecCloud.Lib.KeyedVec
import ParsecCloud.Lib.Runs
import ParsecCloud.Store.UpdateLocks

/- The update locks as they are stored: a vector of the entries that are taken, in which an event is
   made by the first task that has to wait (store/per_manifest_update_lock.rs), and the tasks that
   take and release them. -/
namespace ParsecCloud.LockedEntries
open Rust Events Runs

structure PerManifestUpdateLock where
  perManifestLock : List (VlobID × EntryLockState)

inductive TakeOutcome (Listener : Type) where
  | taken (guard : ManifestUpdateLockGuard)
  | needWait (listener : Listener)

variable {World Listener : Type}

namespace PerManifestUpdateLock

def new : PerManifestUpdateLock := ⟨[]⟩

def isTaken (lock : PerManifestUpdateLock) (entryId : VlobID) : Bool :=
  lock.perManifestLock.any (·.1 = entryId)

def take (crate : EventCrate World Listener) (lock : PerManifestUpdateLock) (entryId : VlobID)
    (world : World) : TakeOutcome Listener × PerManifestUpdateLock × World :=
  match KeyedVec.find lock.perManifestLock entryId with
  | none => (.taken ⟨entryId⟩, ⟨lock.perManifestLock ++ [(entryId, .taken)]⟩, world)
  | some .taken =>
    let (event, world) := crate.new world
    let (listener, world) := crate.listen world event
    (.needWait listener,
      ⟨KeyedVec.replace lock.perManifestLock entryId (.takenWithConcurrency event)⟩, world)
  | some (.takenWithConcurrency event) =>
    let (listener, world) := crate.listen world event
    (.needWait listener, lock, world)

def tryTake (lock : PerManifestUpdateLock) (entryId : VlobID) :
    Option ManifestUpdateLockGuard × PerManifestUpdateLock :=
  match KeyedVec.find lock.perManifestLock entryId with
  | none => (some ⟨entryId⟩, ⟨lock.perManifestLock ++ [(entryId, .taken)]⟩)
  | some _ => (none, lock)

def release (crate : EventCrate World Listener) (lock : PerManifestUpdateLock)
    (guard : ManifestUpdateLockGuard) (world : World) : Checked (PerManifestUpdateLock × World) := do
  let (index, state) ← expectSome "Must be present"
    (KeyedVec.position lock.perManifestLock guard.entryId)
  let world :=
    match state with
    | .taken => world
    | .takenWithConcurrency event => crate.notify world event usizeMax
  let kept ← KeyedVec.swapRemove lock.perManifestLock index
  return (⟨kept⟩, world)

/-- What the table says of an entry. -/
def state (lock : PerManifestUpdateLock) (entryId : VlobID) : Option EntryLockState :=
  KeyedVec.find lock.perManifestLock entryId

/-- The entries that are taken, each once. -/
def ids (lock : PerManifestUpdateLock) : List VlobID := KeyedVec.keys lock.perManifestLock

variable {crate : EventCrate World Listener} {world : World} {lock : PerManifestUpdateLock}
  {entryId : VlobID} {guard : ManifestUpdateLockGuard}

theorem isTaken_iff : lock.isTaken entryId = true ↔ entryId ∈ lock.ids := by
  simp [isTaken, ids, KeyedVec.keys]

theorem state_isSome_iff : (lock.state entryId).isSome = true ↔ entryId ∈ lock.ids :=
  KeyedVec.find_isSome_iff

theorem state_eq_none_iff : lock.state entryId = none ↔ entryId ∉ lock.ids :=
  KeyedVec.find_eq_none_iff

theorem take_free (crate : EventCrate World Listener) (world : World) (free : entryId ∉ lock.ids) :
    ∃ lock', lock.take crate entryId world = (.taken ⟨entryId⟩, lock', world) ∧
      lock.tryTake entryId = (some ⟨entryId⟩, lock') ∧ lock'.ids = lock.ids ++ [entryId] ∧
      ∀ other, lock'.state other = if other = entryId then some .taken else lock.state other := by
  have absent := state_eq_none_iff.mpr free
  unfold state at absent
  refine ⟨⟨lock.perManifestLock ++ [(entryId, .taken)]⟩, ?_, ?_, KeyedVec.keys_push, ?_⟩
  · simp only [take, absent]
  · simp only [tryTake, absent]
  · exact KeyedVec.find_push free

theorem tryTake_busy (busy : entryId ∈ lock.ids) : lock.tryTake entryId = (none, lock) := by
  obtain ⟨held, found⟩ := Option.isSome_iff_exists.mp (state_isSome_iff.mpr busy)
  unfold state at found
  simp only [tryTake, found]

theorem take_busy (lawful : crate.Lawful) (busy : entryId ∈ lock.ids)
    (known : ∀ event, lock.state entryId = some (.takenWithConcurrency event) →
      crate.isEvent world event) :
    ∃ event listener lock' world',
      lock.take crate entryId world = (.needWait listener, lock', world') ∧
      lock'.ids = lock.ids ∧ crate.Joins world world' event listener ∧
      (lock.state entryId = some (.takenWithConcurrency event) ∨
        lock.state entryId = some .taken ∧ ¬ crate.isEvent world event) ∧
      ∀ other, lock'.state other =
        if other = entryId then some (.takenWithConcurrency event) else lock.state other := by
  obtain ⟨held, found⟩ := Option.isSome_iff_exists.mp (state_isSome_iff.mpr busy)
  cases held with
  | taken =>
    refine ⟨(crate.new world).1, _, ⟨_⟩, _, ?_, KeyedVec.keys_replace, lawful.joins_new,
      .inr ⟨found, lawful.new_fresh world⟩, KeyedVec.find_replace busy⟩
    unfold state at found
    simp only [take, found]
  | takenWithConcurrency event =>
    refine ⟨event, _, lock, _, ?_, rfl, lawful.joins (known event found), .inl found, ?_⟩
    · unfold state at found
      simp only [take, found]
    · intro other
      by_cases same : other = entryId
      · simp [same, found]
      · simp [same]

/-- The listeners of an event are notified, and no other one. -/
structure Wakes (crate : EventCrate World Listener) (world world' : World)
    (held : EntryLockState) : Prop where
  isEvent : ∀ event, crate.isEvent world' event ↔ crate.isEvent world event
  listensTo : ∀ listener, crate.listensTo world' listener = crate.listensTo world listener
  waked : ∀ event listener, held = .takenWithConcurrency event →
    crate.listensTo world listener = some event → crate.isNotified world' listener = true
  kept : ∀ listener, crate.isNotified world listener = true →
    crate.isNotified world' listener = true
  others : ∀ listener,
    (∀ event, held = .takenWithConcurrency event → crate.listensTo world listener ≠ some event) →
    crate.isNotified world' listener = crate.isNotified world listener

theorem release_held (world : World) (lawful : crate.Lawful) (nodup : lock.ids.Nodup)
    {held : EntryLockState} (found : lock.state guard.entryId = some held) :
    ∃ lock' world', lock.release crate guard world = .ok (lock', world') ∧ lock'.ids.Nodup ∧
      Wakes crate world world' held ∧
      ∀ other, lock'.state other = if other = guard.entryId then none else lock.state other := by
  obtain ⟨index, kept, isAt, removed, nodup', states⟩ := KeyedVec.remove_spec nodup found
  cases held with
  | taken =>
    refine ⟨⟨kept⟩, world, ?_, nodup', ?_, states⟩
    · simp only [release, isAt, expectSome, ok_bind, removed, pure_eq_ok]
    · constructor <;> simp
  | takenWithConcurrency event =>
    refine ⟨⟨kept⟩, crate.notify world event usizeMax, ?_, nodup', ?_, states⟩
    · simp only [release, isAt, expectSome, ok_bind, removed, pure_eq_ok]
    · constructor
      · exact lawful.isEvent_notify world event usizeMax
      · exact lawful.listensTo_notify world event usizeMax
      · intro other listener same listens
        cases same
        simp [lawful.isNotified_notify, listens]
      · intro listener notified
        simp [lawful.isNotified_notify, notified]
      · intro listener elsewhere
        simp [lawful.isNotified_notify, elsewhere event rfl]

section Table
variable {locks : UpdateLocks}

/-- The vector has the entries that are held in the table of the stores. -/
def Shows (lock : PerManifestUpdateLock) (locks : UpdateLocks) : Prop :=
  ∀ entryId, entryId ∈ lock.ids ↔ entryId ∈ locks.held

theorem shows_new : new.Shows UpdateLocks.new := by
  intro entryId
  simp [new, ids, KeyedVec.keys]

theorem ids_of_states {lock' : PerManifestUpdateLock} {held : EntryLockState}
    (states : ∀ other, lock'.state other = if other = entryId then some held else lock.state other)
    (other : VlobID) : other ∈ lock'.ids ↔ other = entryId ∨ other ∈ lock.ids := by
  rw [← state_isSome_iff, ← state_isSome_iff, states]
  by_cases same : other = entryId
  · simp [same]
  · simp [same]

theorem Shows.take (shown : lock.Shows locks) (lawful : crate.Lawful)
    (known : ∀ event, lock.state entryId = some (.takenWithConcurrency event) →
      crate.isEvent world event) :
    (∃ lock' locks', lock.take crate entryId world = (.taken ⟨entryId⟩, lock', world) ∧
      locks.take entryId = (.taken ⟨entryId⟩, locks') ∧ lock'.Shows locks') ∨
    ∃ listener event lock' world' locks',
      lock.take crate entryId world = (.needWait listener, lock', world') ∧
      locks.take entryId = (.needWait event, locks') ∧ lock'.Shows locks' := by
  by_cases busy : entryId ∈ lock.ids
  · right
    obtain ⟨event, listener, lock', world', taken, sameIds, _⟩ := take_busy lawful busy known
    obtain ⟨event', locks', taken', _, sameHeld, _⟩ := UpdateLocks.take_busy ((shown entryId).mp busy)
    refine ⟨listener, event', lock', world', locks', taken, taken', ?_⟩
    intro other
    rw [sameIds, sameHeld]
    exact shown other
  · left
    obtain ⟨lock', taken, _, _, states⟩ := take_free crate world busy
    have free : entryId ∉ locks.held := fun held => busy ((shown entryId).mpr held)
    obtain ⟨locks', taken', _, held, _⟩ := UpdateLocks.take_free free
    refine ⟨lock', locks', taken, taken', ?_⟩
    intro other
    rw [ids_of_states states, held, Finset.mem_insert, shown other]

theorem Shows.tryTake (shown : lock.Shows locks) :
    (lock.tryTake entryId).1 = (locks.tryTake entryId).1 ∧
      (lock.tryTake entryId).2.Shows (locks.tryTake entryId).2 := by
  by_cases busy : entryId ∈ lock.ids
  · obtain ⟨_, _, _, missed, _⟩ := UpdateLocks.take_busy ((shown entryId).mp busy)
    rw [tryTake_busy busy, missed]
    exact ⟨rfl, shown⟩
  · have free : entryId ∉ locks.held := fun held => busy ((shown entryId).mpr held)
    have absent := state_eq_none_iff.mpr busy
    unfold state at absent
    obtain ⟨locks', _, taken, held, _⟩ := UpdateLocks.take_free free
    rw [taken]
    constructor
    · simp only [PerManifestUpdateLock.tryTake, absent]
    · intro other
      simp only [PerManifestUpdateLock.tryTake, absent, ids, KeyedVec.keys_push, List.mem_append,
        List.mem_singleton, held, Finset.mem_insert]
      exact or_comm.trans (or_congr_right (shown other))

theorem Shows.release (shown : lock.Shows locks) (lawful : crate.Lawful) (nodup : lock.ids.Nodup)
    (isHeld : guard.entryId ∈ lock.ids) :
    ∃ lock' world' locks', lock.release crate guard world = .ok (lock', world') ∧
      locks.release guard = .ok locks' ∧ lock'.Shows locks' := by
  obtain ⟨held, found⟩ := Option.isSome_iff_exists.mp (state_isSome_iff.mpr isHeld)
  obtain ⟨lock', world', released, _, _, states⟩ :=
    release_held world lawful nodup found
  obtain ⟨locks', released', sameHeld, _⟩ :=
    UpdateLocks.release_held ((shown guard.entryId).mp isHeld)
  refine ⟨lock', world', locks', released, released', ?_⟩
  intro other
  rw [sameHeld, Finset.mem_erase, ← shown other, ← state_isSome_iff, ← state_isSome_iff, states]
  by_cases same : other = guard.entryId
  · simp [same]
  · simp [same]

end Table

end PerManifestUpdateLock

open ParsecCloud.LockedEntries.PerManifestUpdateLock

section Tasks

/-- The table, the guards that are not released with the task that has each, and the listener of
    each task that waits, with the entry it waits for. -/
structure LockState (Task World Listener : Type) where
  lock : PerManifestUpdateLock
  world : World
  guards : List (Task × ManifestUpdateLockGuard)
  waiting : Task → Option (VlobID × Listener)

inductive LockAction (Task : Type) where
  | take (task : Task) (entryId : VlobID)
  | tryTake (task : Task) (entryId : VlobID)
  | release (task : Task) (guard : ManifestUpdateLockGuard)
  | wake (task : Task)
  | giveUp (task : Task)

variable {Task : Type} [DecidableEq Task] (crate : EventCrate World Listener)

/-- A task waits for the listener it was given and can then take again, or it gives up and drops
    it. -/
inductive LockStep : LockState Task World Listener → LockAction Task →
    LockState Task World Listener → Prop where
  | taken {s : LockState Task World Listener} {task : Task} {entryId : VlobID}
      {guard : ManifestUpdateLockGuard} {lock' : PerManifestUpdateLock} {world' : World}
      (idle : s.waiting task = none)
      (outcome : s.lock.take crate entryId s.world = (.taken guard, lock', world')) :
      LockStep s (.take task entryId)
        { s with lock := lock', world := world', guards := (task, guard) :: s.guards }
  | needWait {s : LockState Task World Listener} {task : Task} {entryId : VlobID}
      {listener : Listener} {lock' : PerManifestUpdateLock} {world' : World}
      (idle : s.waiting task = none)
      (outcome : s.lock.take crate entryId s.world = (.needWait listener, lock', world')) :
      LockStep s (.take task entryId)
        { s with
          lock := lock', world := world'
          waiting := Function.update s.waiting task (some (entryId, listener)) }
  | tryTaken {s : LockState Task World Listener} {task : Task} {entryId : VlobID}
      {guard : ManifestUpdateLockGuard} {lock' : PerManifestUpdateLock}
      (outcome : s.lock.tryTake entryId = (some guard, lock')) :
      LockStep s (.tryTake task entryId)
        { s with lock := lock', guards := (task, guard) :: s.guards }
  | tryMissed {s : LockState Task World Listener} {task : Task} {entryId : VlobID}
      {lock' : PerManifestUpdateLock} (outcome : s.lock.tryTake entryId = (none, lock')) :
      LockStep s (.tryTake task entryId) { s with lock := lock' }
  | release {s : LockState Task World Listener} {task : Task} {guard : ManifestUpdateLockGuard}
      {lock' : PerManifestUpdateLock} {world' : World} (owned : (task, guard) ∈ s.guards)
      (released : s.lock.release crate guard s.world = .ok (lock', world')) :
      LockStep s (.release task guard)
        { s with lock := lock', world := world', guards := s.guards.erase (task, guard) }
  | wake {s : LockState Task World Listener} {task : Task} {entryId : VlobID} {listener : Listener}
      (waits : s.waiting task = some (entryId, listener))
      (notified : crate.isNotified s.world listener = true) :
      LockStep s (.wake task)
        { s with
          world := crate.drop s.world listener, waiting := Function.update s.waiting task none }
  | giveUp {s : LockState Task World Listener} {task : Task} {entryId : VlobID}
      {listener : Listener} (waits : s.waiting task = some (entryId, listener)) :
      LockStep s (.giveUp task)
        { s with
          world := crate.drop s.world listener, waiting := Function.update s.waiting task none }

def initial (world : World) : LockState Task World Listener := ⟨.new, world, [], fun _ => none⟩

def Reached (world : World) (s : LockState Task World Listener) : Prop :=
  Run (LockStep crate) (fun _ _ => True) (initial world) s

namespace LockState
variable (s : LockState Task World Listener)

/-- An entry has one guard at most, and is taken as long as it has one. -/
def Exclusive : Prop :=
  ∀ entryId, (s.guards.filter (·.2.entryId = entryId)).length ≤ 1 ∧
    (s.lock.isTaken entryId = true ↔ ∃ task, (task, ⟨entryId⟩) ∈ s.guards)

/-- A guard that is not released can be, and this changes nothing for the other entries and those
    who wait for them. -/
def Releasable : Prop :=
  ∀ task guard, (task, guard) ∈ s.guards → ∃ lock' world',
    s.lock.release crate guard s.world = .ok (lock', world') ∧
    lock'.isTaken guard.entryId = false ∧
    ∀ other, other ≠ guard.entryId → lock'.state other = s.lock.state other ∧
      ∀ waiter listener, s.waiting waiter = some (other, listener) →
        crate.SameFor s.world world' listener

/-- Nobody sleeps while the entry that is waited for is free. -/
def Awake : Prop :=
  ∀ task entryId listener, s.waiting task = some (entryId, listener) →
    crate.isNotified s.world listener = false → s.lock.isTaken entryId = true

/-- The steps before the guard of the entry is released and while the task waits. -/
def Meanwhile (task : Task) (entryId : VlobID) (_ : LockState Task World Listener)
    (action : LockAction Task) : Prop :=
  action ≠ .giveUp task ∧ ∀ holder, action ≠ .release holder ⟨entryId⟩

/-- The listener that a task is given is notified by the release of the guard that there was then,
    and not before. -/
def Notifies : Prop :=
  ∀ task entryId listener (s' : LockState Task World Listener),
    LockStep crate s (.take task entryId) s' → s'.waiting task = some (entryId, listener) →
    ∃ holder, (holder, ⟨entryId⟩) ∈ s.guards ∧
      ∀ later, Run (LockStep crate) (Meanwhile task entryId) s' later →
        (holder, ⟨entryId⟩) ∈ later.guards ∧ crate.isNotified later.world listener = false ∧
        ∀ final, LockStep crate later (.release holder ⟨entryId⟩) final →
          crate.isNotified final.world listener = true

/-- The events of the table have one entry each and have notified nobody, and who waits has been
    notified or listens to the event of the entry. -/
structure Sound : Prop where
  nodup : s.lock.ids.Nodup
  guards : (s.guards.map (·.2.entryId)).Nodup
  held : ∀ entryId, entryId ∈ s.lock.ids ↔ entryId ∈ s.guards.map (·.2.entryId)
  events : ∀ entryId event, s.lock.state entryId = some (.takenWithConcurrency event) →
    crate.isEvent s.world event
  apart : ∀ entryId other event, s.lock.state entryId = some (.takenWithConcurrency event) →
    s.lock.state other = some (.takenWithConcurrency event) → entryId = other
  quiet : ∀ entryId event listener,
    s.lock.state entryId = some (.takenWithConcurrency event) →
    crate.listensTo s.world listener = some event → crate.isNotified s.world listener = false
  waits : ∀ task entryId listener, s.waiting task = some (entryId, listener) →
    ∃ event, crate.listensTo s.world listener = some event ∧
      (crate.isNotified s.world listener = true ∨
        s.lock.state entryId = some (.takenWithConcurrency event))
  own : ∀ task waiter entryId other listener, s.waiting task = some (entryId, listener) →
    s.waiting waiter = some (other, listener) → task = waiter

end LockState
variable {crate} {s : LockState Task World Listener} {task : Task} {entryId : VlobID}
  {lock' : PerManifestUpdateLock} {world' : World}

omit [DecidableEq Task] in
theorem LockState.Sound.acquired (sound : s.Sound crate) (free : entryId ∉ s.lock.ids)
    (sameIds : lock'.ids = s.lock.ids ++ [entryId])
    (states : ∀ other, lock'.state other =
      if other = entryId then some .taken else s.lock.state other) :
    LockState.Sound crate { s with lock := lock', guards := (task, ⟨entryId⟩) :: s.guards } := by
  have before : ∀ other event, lock'.state other = some (.takenWithConcurrency event) →
      s.lock.state other = some (.takenWithConcurrency event) := by
    intro other event found
    rw [states] at found
    split at found
    · cases found
    · exact found
  constructor
  · rw [sameIds, List.nodup_append]
    refine ⟨sound.nodup, List.nodup_singleton entryId, ?_⟩
    intro other isIn _ isLast same
    rw [List.mem_singleton.mp isLast] at same
    exact free (same ▸ isIn)
  · rw [List.map_cons, List.nodup_cons]
    exact ⟨fun isIn => free ((sound.held entryId).mpr isIn), sound.guards⟩
  · intro other
    rw [sameIds, List.mem_append, List.mem_singleton, sound.held, List.map_cons, List.mem_cons]
    exact or_comm
  · intro other event found
    exact sound.events other event (before other event found)
  · intro first second event found found'
    exact sound.apart first second event (before first event found) (before second event found')
  · intro other event listener found listens
    exact sound.quiet other event listener (before other event found) listens
  · intro waiter other listener waiting
    obtain ⟨event, listens, waits⟩ := sound.waits waiter other listener waiting
    refine ⟨event, listens, waits.imp_right ?_⟩
    intro found
    have differs : other ≠ entryId := by
      rintro rfl
      rw [state_eq_none_iff.mpr free] at found
      cases found
    rw [states, if_neg differs]
    exact found
  · exact sound.own

theorem LockState.Sound.joined (lawful : crate.Lawful) (sound : s.Sound crate) {event : Nat}
    {listener : Listener} (sameIds : lock'.ids = s.lock.ids)
    (joins : crate.Joins s.world world' event listener)
    (origin : s.lock.state entryId = some (.takenWithConcurrency event) ∨
      s.lock.state entryId = some .taken ∧ ¬ crate.isEvent s.world event)
    (states : ∀ other, lock'.state other =
      if other = entryId then some (.takenWithConcurrency event) else s.lock.state other) :
    LockState.Sound crate { s with
      lock := lock', world := world'
      waiting := Function.update s.waiting task (some (entryId, listener)) } := by
  have before : ∀ other found, lock'.state other = some (.takenWithConcurrency found) →
      other = entryId ∧ found = event ∨
        other ≠ entryId ∧ s.lock.state other = some (.takenWithConcurrency found) := by
    intro other found here
    rw [states] at here
    split at here
    · rename_i same
      cases here
      exact .inl ⟨same, rfl⟩
    · rename_i differs
      exact .inr ⟨differs, here⟩
  -- no other entry has the event, whether it is new or not
  have alone : ∀ other, other ≠ entryId →
      s.lock.state other ≠ some (.takenWithConcurrency event) := by
    intro other differs found
    rcases origin with here | ⟨_, isNew⟩
    · exact differs (sound.apart other entryId event found here)
    · exact isNew (sound.events other event found)
  have older : ∀ other, crate.listensTo s.world other ≠ none →
      crate.SameFor s.world world' other := by
    intro other listens
    apply joins.others
    rintro rfl
    exact listens joins.fresh
  have silent : ∀ other, crate.listensTo s.world other = some event →
      crate.isNotified s.world other = false := by
    intro other listens
    rcases origin with here | ⟨_, isNew⟩
    · exact sound.quiet entryId event other here listens
    · exact absurd (lawful.isEvent_of_listensTo _ _ _ listens) isNew
  constructor
  · rw [sameIds]
    exact sound.nodup
  · exact sound.guards
  · intro other
    rw [sameIds]
    exact sound.held other
  · intro other found here
    rw [joins.isEvent]
    rcases before other found here with ⟨_, same⟩ | ⟨_, here⟩
    · exact .inl same
    · exact .inr (sound.events other found here)
  · intro first second found here here'
    rcases before first found here with ⟨isFirst, same⟩ | ⟨differs, here⟩
    · rcases before second found here' with ⟨isSecond, _⟩ | ⟨differs', here'⟩
      · rw [isFirst, isSecond]
      · exact absurd (same ▸ here') (alone second differs')
    · rcases before second found here' with ⟨_, same⟩ | ⟨_, here'⟩
      · exact absurd (same ▸ here) (alone first differs)
      · exact sound.apart first second found here here'
  · intro other found who here listens
    by_cases isNew : who = listener
    · rw [isNew]
      exact joins.isNotified
    · have same := joins.others who isNew
      rw [same.listensTo] at listens
      rw [same.isNotified]
      rcases before other found here with ⟨_, sameEvent⟩ | ⟨_, here⟩
      · exact silent who (sameEvent ▸ listens)
      · exact sound.quiet other found who here listens
  · intro waiter other who waiting
    by_cases isTask : waiter = task
    · subst isTask
      simp only [Function.update_self] at waiting
      cases waiting
      exact ⟨event, joins.listensTo, .inr (by rw [states, if_pos rfl])⟩
    · simp only [Function.update_of_ne isTask] at waiting
      obtain ⟨found, listens, waits⟩ := sound.waits waiter other who waiting
      have same := older who (by simp [listens])
      refine ⟨found, same.listensTo.trans listens, waits.imp same.isNotified.trans ?_⟩
      intro here
      rw [states]
      split
      · rename_i isEntry
        subst isEntry
        rcases origin with there | ⟨there, _⟩
        · exact there.symm.trans here
        · rw [there] at here
          cases here
      · exact here
  · have isFresh : ∀ waiter other who, s.waiting waiter = some (other, who) → who ≠ listener := by
      rintro waiter other who waiting rfl
      obtain ⟨found, listens, _⟩ := sound.waits waiter other who waiting
      rw [joins.fresh] at listens
      cases listens
    intro first second one two who waiting waiting'
    simp only [Function.update_apply] at waiting waiting'
    split at waiting <;> split at waiting'
    · rename_i isFirst isSecond
      rw [isFirst, isSecond]
    · cases waiting
      exact absurd rfl (isFresh second two _ waiting')
    · cases waiting'
      exact absurd rfl (isFresh first one _ waiting)
    · exact sound.own first second one two who waiting waiting'

theorem LockState.Sound.released (sound : s.Sound crate) {guard : ManifestUpdateLockGuard}
    {held : EntryLockState} (owned : (task, guard) ∈ s.guards)
    (found : s.lock.state guard.entryId = some held) (nodup : lock'.ids.Nodup)
    (wakes : Wakes crate s.world world' held)
    (states : ∀ other, lock'.state other =
      if other = guard.entryId then none else s.lock.state other) :
    LockState.Sound crate { s with
      lock := lock', world := world', guards := s.guards.erase (task, guard) } := by
  have before : ∀ other event, lock'.state other = some (.takenWithConcurrency event) →
      other ≠ guard.entryId ∧ s.lock.state other = some (.takenWithConcurrency event) := by
    intro other event here
    rw [states] at here
    split at here
    · cases here
    · rename_i differs
      exact ⟨differs, here⟩
  have sameIds : ∀ other, other ∈ lock'.ids ↔ other ≠ guard.entryId ∧ other ∈ s.lock.ids := by
    intro other
    rw [← state_isSome_iff, ← state_isSome_iff, states]
    by_cases same : other = guard.entryId
    · simp [same]
    · simp [same]
  have perm := List.perm_cons_erase owned
  have whole := (perm.map (·.2.entryId)).nodup_iff.mp sound.guards
  rw [List.map_cons, List.nodup_cons] at whole
  constructor
  · exact nodup
  · exact whole.2
  · intro other
    rw [sameIds, sound.held, (perm.map (·.2.entryId)).mem_iff, List.map_cons, List.mem_cons]
    constructor
    · rintro ⟨differs, same | isIn⟩
      · exact absurd same differs
      · exact isIn
    · intro isIn
      refine ⟨?_, .inr isIn⟩
      rintro rfl
      exact whole.1 isIn
  · intro other event here
    rw [wakes.isEvent]
    exact sound.events other event (before other event here).2
  · intro first second event here here'
    exact sound.apart first second event (before first event here).2 (before second event here').2
  · intro other event listener here listens
    obtain ⟨differs, here⟩ := before other event here
    rw [wakes.listensTo] at listens
    rw [wakes.others]
    · exact sound.quiet other event listener here listens
    · intro notified same listens'
      subst same
      rw [listens] at listens'
      cases listens'
      exact differs (sound.apart other guard.entryId event here found)
  · intro waiter other listener waiting
    obtain ⟨event, listens, waits⟩ := sound.waits waiter other listener waiting
    refine ⟨event, (wakes.listensTo listener).trans listens, ?_⟩
    rcases waits with notified | here
    · exact .inl (wakes.kept listener notified)
    · by_cases same : other = guard.entryId
      · subst same
        rw [found] at here
        cases here
        exact .inl (wakes.waked event listener rfl listens)
      · rw [states, if_neg same]
        exact .inr here
  · exact sound.own

theorem LockState.Sound.dropped (lawful : crate.Lawful) (sound : s.Sound crate)
    {listener : Listener} (waits : s.waiting task = some (entryId, listener)) :
    LockState.Sound crate { s with
      world := crate.drop s.world listener, waiting := Function.update s.waiting task none } := by
  have others : ∀ waiter other who, Function.update s.waiting task none waiter = some (other, who) →
      who ≠ listener ∧ s.waiting waiter = some (other, who) := by
    intro waiter other who waiting
    by_cases same : waiter = task
    · subst same
      simp at waiting
    · rw [Function.update_of_ne same] at waiting
      refine ⟨?_, waiting⟩
      rintro rfl
      exact same (sound.own waiter task other entryId _ waiting waits)
  constructor
  · exact sound.nodup
  · exact sound.guards
  · exact sound.held
  · intro other event here
    rw [lawful.isEvent_drop]
    exact sound.events other event here
  · exact sound.apart
  · intro other event who here listens
    have differs : who ≠ listener := by
      rintro rfl
      rw [lawful.listensTo_dropped] at listens
      cases listens
    rw [lawful.listensTo_drop _ _ _ differs] at listens
    rw [← Bool.not_eq_true]
    intro notified
    rcases lawful.drop_passes _ _ _ differs notified with already | ⟨passed, same⟩
    · simp [sound.quiet other event who here listens] at already
    · simp [sound.quiet other event listener here (same.trans listens)] at passed
  · intro waiter other who waiting
    obtain ⟨differs, waiting⟩ := others waiter other who waiting
    obtain ⟨event, listens, waits⟩ := sound.waits waiter other who waiting
    exact ⟨event, (lawful.listensTo_drop _ _ _ differs).trans listens,
      waits.imp_left (lawful.drop_keeps _ _ _ differs)⟩
  · intro first second one two who waiting waiting'
    exact sound.own first second one two who (others first one who waiting).2
      (others second two who waiting').2

omit [DecidableEq Task] in
theorem LockState.Sound.of_taken (lawful : crate.Lawful) (sound : s.Sound crate)
    {guard : ManifestUpdateLockGuard}
    (outcome : s.lock.take crate entryId s.world = (.taken guard, lock', world')) :
    entryId ∉ s.lock.ids ∧ guard = ⟨entryId⟩ ∧ world' = s.world ∧
      lock'.ids = s.lock.ids ++ [entryId] ∧
      ∀ other, lock'.state other = if other = entryId then some .taken else s.lock.state other := by
  by_cases busy : entryId ∈ s.lock.ids
  · obtain ⟨event, listener, lock'', world'', needWait, _⟩ :=
      take_busy lawful busy (sound.events entryId)
    rw [needWait] at outcome
    cases outcome
  · obtain ⟨lock'', taken, _, sameIds, states⟩ := take_free crate s.world busy
    rw [taken] at outcome
    cases outcome
    exact ⟨busy, rfl, rfl, sameIds, states⟩

omit [DecidableEq Task] in
theorem LockState.Sound.of_needWait (lawful : crate.Lawful) (sound : s.Sound crate)
    {listener : Listener}
    (outcome : s.lock.take crate entryId s.world = (.needWait listener, lock', world')) :
    entryId ∈ s.lock.ids ∧ lock'.ids = s.lock.ids ∧ ∃ event,
      crate.Joins s.world world' event listener ∧
      (s.lock.state entryId = some (.takenWithConcurrency event) ∨
        s.lock.state entryId = some .taken ∧ ¬ crate.isEvent s.world event) ∧
      ∀ other, lock'.state other =
        if other = entryId then some (.takenWithConcurrency event) else s.lock.state other := by
  by_cases busy : entryId ∈ s.lock.ids
  · obtain ⟨event, listener', lock'', world'', needWait, sameIds, joins, origin, states⟩ :=
      take_busy lawful busy (sound.events entryId)
    rw [needWait] at outcome
    cases outcome
    exact ⟨busy, sameIds, event, joins, origin, states⟩
  · obtain ⟨lock'', taken, _⟩ := take_free crate s.world busy
    rw [taken] at outcome
    cases outcome

omit [DecidableEq Task] in
theorem LockState.of_tryTaken (crate : EventCrate World Listener) {guard : ManifestUpdateLockGuard}
    (outcome : s.lock.tryTake entryId = (some guard, lock')) :
    entryId ∉ s.lock.ids ∧ guard = ⟨entryId⟩ ∧ lock'.ids = s.lock.ids ++ [entryId] ∧
      ∀ other, lock'.state other = if other = entryId then some .taken else s.lock.state other := by
  by_cases busy : entryId ∈ s.lock.ids
  · rw [tryTake_busy busy] at outcome
    cases outcome
  · obtain ⟨lock'', _, taken, sameIds, states⟩ := take_free crate s.world busy
    rw [taken] at outcome
    cases outcome
    exact ⟨busy, rfl, sameIds, states⟩

theorem tryMissed_same {lock : PerManifestUpdateLock}
    (outcome : lock.tryTake entryId = (none, lock')) : lock' = lock := by
  unfold PerManifestUpdateLock.tryTake at outcome
  split at outcome
  · cases outcome
  · cases outcome
    rfl

omit [DecidableEq Task] in
/-- The release of a guard never panics. -/
theorem LockState.Sound.releases (lawful : crate.Lawful) (sound : s.Sound crate)
    {guard : ManifestUpdateLockGuard} (owned : (task, guard) ∈ s.guards) :
    ∃ held lock' world', s.lock.release crate guard s.world = .ok (lock', world') ∧
      s.lock.state guard.entryId = some held ∧ lock'.ids.Nodup ∧
      Wakes crate s.world world' held ∧
      ∀ other, lock'.state other = if other = guard.entryId then none else s.lock.state other := by
  have isHeld : guard.entryId ∈ s.lock.ids :=
    (sound.held guard.entryId).mpr (List.mem_map.mpr ⟨_, owned, rfl⟩)
  obtain ⟨held, found⟩ := Option.isSome_iff_exists.mp (state_isSome_iff.mpr isHeld)
  obtain ⟨lock', world', released, nodup, wakes, states⟩ :=
    release_held s.world lawful sound.nodup found
  exact ⟨held, lock', world', released, found, nodup, wakes, states⟩

omit [DecidableEq Task] in
theorem LockState.Sound.of_released (lawful : crate.Lawful) (sound : s.Sound crate)
    {guard : ManifestUpdateLockGuard} (owned : (task, guard) ∈ s.guards)
    (outcome : s.lock.release crate guard s.world = .ok (lock', world')) :
    ∃ held, s.lock.state guard.entryId = some held ∧ lock'.ids.Nodup ∧
      Wakes crate s.world world' held ∧
      ∀ other, lock'.state other = if other = guard.entryId then none else s.lock.state other := by
  obtain ⟨held, lock'', world'', released, rest⟩ := sound.releases lawful owned
  rw [released] at outcome
  cases outcome
  exact ⟨held, rest⟩

theorem LockState.Sound.step (lawful : crate.Lawful) (sound : s.Sound crate)
    {action : LockAction Task} {s' : LockState Task World Listener}
    (step : LockStep crate s action s') : s'.Sound crate := by
  cases step with
  | taken idle outcome =>
    obtain ⟨free, rfl, rfl, sameIds, states⟩ := sound.of_taken lawful outcome
    exact sound.acquired free sameIds states
  | needWait idle outcome =>
    obtain ⟨busy, sameIds, event, joins, origin, states⟩ := sound.of_needWait lawful outcome
    exact sound.joined lawful sameIds joins origin states
  | tryTaken outcome =>
    obtain ⟨free, rfl, sameIds, states⟩ := LockState.of_tryTaken crate outcome
    exact sound.acquired free sameIds states
  | tryMissed outcome =>
    rw [tryMissed_same outcome]
    exact sound
  | release owned outcome =>
    obtain ⟨held, found, nodup, wakes, states⟩ := sound.of_released lawful owned outcome
    exact sound.released owned found nodup wakes states
  | wake waits notified => exact sound.dropped lawful waits
  | giveUp waits => exact sound.dropped lawful waits

omit [DecidableEq Task] in
theorem sound_initial (world : World) :
    (initial world : LockState Task World Listener).Sound crate := by
  constructor <;> simp [initial, PerManifestUpdateLock.new, ids, KeyedVec.keys,
    PerManifestUpdateLock.state, KeyedVec.find]

theorem Reached.sound (lawful : crate.Lawful) {world : World} (reached : Reached crate world s) :
    s.Sound crate :=
  Run.keeps (sound_initial world) (fun _ _ _ sound _ step => sound.step lawful step) reached

/-- A task waits, the guard of its entry is not released and its listener not notified. -/
structure LockState.Pending (crate : EventCrate World Listener) (s : LockState Task World Listener)
    (task holder : Task) (entryId : VlobID) (listener : Listener) : Prop where
  waiting : s.waiting task = some (entryId, listener)
  silent : crate.isNotified s.world listener = false
  owned : (holder, ⟨entryId⟩) ∈ s.guards

variable {holder : Task} {listener : Listener}

omit [DecidableEq Task] in
theorem LockState.Pending.event (sound : s.Sound crate)
    (pending : s.Pending crate task holder entryId listener) :
    ∃ event, crate.listensTo s.world listener = some event ∧
      s.lock.state entryId = some (.takenWithConcurrency event) := by
  obtain ⟨event, listens, notified | found⟩ := sound.waits task entryId listener pending.waiting
  · rw [pending.silent] at notified
    cases notified
  · exact ⟨event, listens, found⟩

theorem LockState.Pending.dropped (lawful : crate.Lawful) (sound : s.Sound crate)
    (pending : s.Pending crate task holder entryId listener) {waiter : Task} {other : VlobID}
    {who : Listener} (waits : s.waiting waiter = some (other, who)) (differs : waiter ≠ task) :
    LockState.Pending crate { s with
      world := crate.drop s.world who, waiting := Function.update s.waiting waiter none }
      task holder entryId listener := by
  obtain ⟨event, listens, found⟩ := pending.event sound
  have apart : listener ≠ who := by
    rintro rfl
    exact differs (sound.own waiter task other entryId listener waits pending.waiting)
  constructor
  · simp [Function.update_of_ne (Ne.symm differs), pending.waiting]
  · have sameEvent := (lawful.listensTo_drop s.world who listener apart).trans listens
    exact (sound.dropped lawful waits).quiet entryId event listener found sameEvent
  · exact pending.owned

theorem LockState.Pending.step (lawful : crate.Lawful) (sound : s.Sound crate)
    (pending : s.Pending crate task holder entryId listener) {action : LockAction Task}
    {s' : LockState Task World Listener} (meanwhile : Meanwhile task entryId s action)
    (step : LockStep crate s action s') : s'.Pending crate task holder entryId listener := by
  obtain ⟨event, listens, found⟩ := pending.event sound
  cases step with
  | taken idle outcome =>
    obtain ⟨_, _, rfl, _⟩ := sound.of_taken lawful outcome
    exact ⟨pending.waiting, pending.silent, List.mem_cons_of_mem _ pending.owned⟩
  | @needWait waiter other who lock' world' idle outcome =>
    obtain ⟨_, _, other, joins, _⟩ := sound.of_needWait lawful outcome
    have differs : task ≠ waiter := by
      rintro rfl
      rw [pending.waiting] at idle
      cases idle
    have apart : listener ≠ who := by
      rintro rfl
      rw [joins.fresh] at listens
      cases listens
    constructor
    · simp [Function.update_of_ne differs, pending.waiting]
    · exact (joins.others listener apart).isNotified.trans pending.silent
    · exact pending.owned
  | tryTaken outcome =>
    exact ⟨pending.waiting, pending.silent, List.mem_cons_of_mem _ pending.owned⟩
  | tryMissed outcome => exact ⟨pending.waiting, pending.silent, pending.owned⟩
  | @release waiter guard lock' world' owned outcome =>
    obtain ⟨held, isHeld, _, wakes, _⟩ := sound.of_released lawful owned outcome
    have differs : guard.entryId ≠ entryId := by
      rintro rfl
      exact meanwhile.2 waiter rfl
    constructor
    · exact pending.waiting
    · refine (wakes.others listener ?_).trans pending.silent
      rintro other rfl listens'
      rw [listens] at listens'
      cases listens'
      exact differs (sound.apart guard.entryId entryId event isHeld found)
    · apply (List.mem_erase_of_ne ?_).mpr pending.owned
      rintro ⟨⟩
      exact differs rfl
  | @wake waiter other who waits notified =>
    apply pending.dropped lawful sound waits
    rintro rfl
    rw [pending.waiting] at waits
    cases waits
    simp [pending.silent] at notified
  | @giveUp waiter other who waits =>
    apply pending.dropped lawful sound waits
    rintro rfl
    exact meanwhile.1 rfl

omit [DecidableEq Task] in
theorem LockState.Sound.exclusive (sound : s.Sound crate) : s.Exclusive := by
  intro entryId
  constructor
  · have once := List.nodup_iff_count_le_one.mp sound.guards entryId
    rw [List.count, List.countP_map, List.countP_eq_length_filter] at once
    exact once
  · rw [isTaken_iff, sound.held, List.mem_map]
    constructor
    · rintro ⟨⟨task, guard⟩, owned, rfl⟩
      exact ⟨task, owned⟩
    · rintro ⟨task, owned⟩
      exact ⟨_, owned, rfl⟩

omit [DecidableEq Task] in
theorem LockState.Sound.releasable (lawful : crate.Lawful) (sound : s.Sound crate) :
    s.Releasable crate := by
  intro task guard owned
  obtain ⟨held, lock', world', released, found, _, wakes, states⟩ := sound.releases lawful owned
  refine ⟨lock', world', released, ?_, ?_⟩
  · have free : lock'.state guard.entryId = none := by rw [states, if_pos rfl]
    rw [← Bool.not_eq_true, isTaken_iff]
    exact state_eq_none_iff.mp free
  · intro other differs
    rw [states, if_neg differs]
    refine ⟨rfl, ?_⟩
    intro waiter listener waiting
    refine ⟨wakes.listensTo listener, ?_⟩
    obtain ⟨event, listens, waits⟩ := sound.waits waiter other listener waiting
    rcases waits with notified | here
    · rw [notified, wakes.kept listener notified]
    · apply wakes.others
      rintro found' rfl listens'
      rw [listens] at listens'
      cases listens'
      exact differs (sound.apart other guard.entryId event here found)

omit [DecidableEq Task] in
theorem LockState.Sound.awake (sound : s.Sound crate) : s.Awake crate := by
  intro task entryId listener waiting silent
  obtain ⟨event, _, notified | found⟩ := sound.waits task entryId listener waiting
  · rw [silent] at notified
    cases notified
  · rw [isTaken_iff, ← state_isSome_iff, found]
    rfl

theorem LockState.Pending.keeps (lawful : crate.Lawful) (sound : s.Sound crate)
    (pending : s.Pending crate task holder entryId listener) {later : LockState Task World Listener}
    (run : Run (LockStep crate) (Meanwhile task entryId) s later) :
    later.Sound crate ∧ later.Pending crate task holder entryId listener := by
  induction run with
  | start => exact ⟨sound, pending⟩
  | step _ meanwhile step ih =>
    obtain ⟨sound', pending'⟩ := ih
    exact ⟨sound'.step lawful step, pending'.step lawful sound' meanwhile step⟩

theorem LockState.Pending.notified (lawful : crate.Lawful) (sound : s.Sound crate)
    (pending : s.Pending crate task holder entryId listener)
    {final : LockState Task World Listener}
    (step : LockStep crate s (.release holder ⟨entryId⟩) final) :
    crate.isNotified final.world listener = true := by
  obtain ⟨event, listens, found⟩ := pending.event sound
  cases step with
  | release owned outcome =>
    obtain ⟨held, isHeld, _, wakes, _⟩ := sound.of_released lawful owned outcome
    rw [found] at isHeld
    cases isHeld
    exact wakes.waked event listener rfl listens

theorem LockState.Sound.notifies (lawful : crate.Lawful) (sound : s.Sound crate) :
    s.Notifies crate := by
  intro task entryId listener s' step waiting
  have sound' := sound.step lawful step
  cases step with
  | taken idle outcome =>
    rw [idle] at waiting
    cases waiting
  | needWait idle outcome =>
    obtain ⟨busy, _, event, joins, _⟩ := sound.of_needWait lawful outcome
    have same := waiting
    simp only [Function.update_self, Option.some.injEq, Prod.mk.injEq, true_and] at same
    subst same
    obtain ⟨⟨holder, guard⟩, owned, rfl⟩ := List.mem_map.mp ((sound.held entryId).mp busy)
    refine ⟨holder, owned, ?_⟩
    intro later run
    obtain ⟨soundLater, pending⟩ :=
      LockState.Pending.keeps lawful sound' ⟨waiting, joins.isNotified, owned⟩ run
    refine ⟨pending.owned, pending.silent, ?_⟩
    intro final step
    exact pending.notified lawful soundLater step

/-- In every state reached an entry has one guard at most and is taken as long as it has one, its
    guard can be released and this concerns no other entry, nobody sleeps while the entry is free,
    and who is told to wait is notified by the release of the guard there was. -/
theorem update_locks_exclude_and_wake (lawful : crate.Lawful) (world : World)
    (reached : Reached crate world s) :
    s.Exclusive ∧ s.Releasable crate ∧ s.Awake crate ∧ s.Notifies crate := by
  have sound := reached.sound lawful
  exact ⟨sound.exclusive, sound.releasable lawful, sound.awake, sound.notifies lawful⟩

section Table

/-- The same action on the table of the stores. -/
def LockAction.onTable (locks : UpdateLocks) : LockAction Task → Checked UpdateLocks
  | .take _ entryId => .ok (locks.take entryId).2
  | .tryTake _ entryId => .ok (locks.tryTake entryId).2
  | .release _ guard => locks.release guard
  | .wake _ | .giveUp _ => .ok locks

variable {locks : UpdateLocks}

omit [DecidableEq Task] in
theorem LockState.Sound.taken_iff (lawful : crate.Lawful) (sound : s.Sound crate)
    (shown : s.lock.Shows locks) (entryId : VlobID) :
    (s.lock.take crate entryId s.world).2.1.Shows (locks.take entryId).2 ∧
      ((s.lock.take crate entryId s.world).1 = .taken ⟨entryId⟩ ↔
        (locks.take entryId).1 = .taken ⟨entryId⟩) := by
  rcases shown.take lawful (sound.events entryId) with
    ⟨_, _, taken, taken', shown'⟩ | ⟨_, _, _, _, _, taken, taken', shown'⟩
  · rw [taken, taken']
    exact ⟨shown', by simp⟩
  · rw [taken, taken']
    exact ⟨shown', by simp⟩

theorem LockState.Sound.shows_step (lawful : crate.Lawful) (sound : s.Sound crate)
    (shown : s.lock.Shows locks) {action : LockAction Task} {s' : LockState Task World Listener}
    (step : LockStep crate s action s') :
    ∃ locks', action.onTable locks = .ok locks' ∧ s'.lock.Shows locks' := by
  cases step with
  | @taken _ entryId _ _ _ _ outcome | @needWait _ entryId _ _ _ _ outcome =>
    have both := (sound.taken_iff lawful shown entryId).1
    rw [outcome] at both
    exact ⟨_, rfl, both⟩
  | @tryTaken _ entryId _ _ outcome | @tryMissed _ entryId _ outcome =>
    have both := (@Shows.tryTake _ entryId _ shown).2
    rw [outcome] at both
    exact ⟨_, rfl, both⟩
  | release owned outcome =>
    have isHeld := (sound.held _).mpr (List.mem_map.mpr ⟨_, owned, rfl⟩)
    obtain ⟨_, _, locks', released, released', shown'⟩ := shown.release lawful sound.nodup isHeld
    rw [outcome] at released
    cases released
    exact ⟨locks', released', shown'⟩
  | wake _ _ | giveUp _ => exact ⟨locks, rfl, shown⟩

/-- After the same actions the vector and the table of the stores hold the same entries, and both
    give an entry to who asks for it, or neither does. -/
theorem update_locks_refine_table (lawful : crate.Lawful) {world : World}
    {actions : List (LockAction Task)}
    (run : Run (Recorded (LockStep crate)) (fun _ _ => True) (initial world, []) (s, actions)) :
    ∃ locks, actions.foldlM LockAction.onTable .new = .ok locks ∧ s.lock.Shows locks ∧
      ∀ entryId, ((s.lock.take crate entryId s.world).1 = .taken ⟨entryId⟩ ↔
          (locks.take entryId).1 = .taken ⟨entryId⟩) ∧
        (s.lock.tryTake entryId).1 = (locks.tryTake entryId).1 := by
  obtain ⟨sound, locks, same, shown⟩ : s.Sound crate ∧ ∃ locks,
      actions.foldlM LockAction.onTable .new = .ok locks ∧ s.lock.Shows locks := by
    refine @Run.keeps _ _ _ _ _ _ (fun p => p.1.Sound crate ∧ ∃ locks,
      p.2.foldlM LockAction.onTable .new = .ok locks ∧ p.1.lock.Shows locks)
      ⟨sound_initial world, .new, rfl, shows_new⟩ ?_ run
    rintro p action p' ⟨sound, locks, same, shown⟩ - ⟨step, more⟩
    obtain ⟨locks', acts, shown'⟩ := sound.shows_step lawful shown step
    refine ⟨sound.step lawful step, locks', ?_, shown'⟩
    rw [more, List.foldlM_append, same, ok_bind, List.foldlM_cons, acts]
    rfl
  exact ⟨locks, same, shown, fun id => ⟨(sound.taken_iff lawful shown id).2, shown.tryTake.1⟩⟩

end Table
end Tasks

namespace Samples

/-- The listeners are numbered too; a new one has not been notified. -/
structure RecordedEvents where
  made : Nat
  next : Nat
  listeners : Nat → Option (Nat × Bool)
  fresh : ∀ listener, next ≤ listener → listeners listener = none
  known : ∀ listener event notified, listeners listener = some (event, notified) → event < made

namespace RecordedEvents

def empty : RecordedEvents :=
  ⟨0, 0, fun _ => none, fun _ _ => rfl, fun _ _ _ found => by cases found⟩

def new (events : RecordedEvents) : RecordedEvents :=
  { events with
    made := events.made + 1
    known := fun listener event notified found =>
      Nat.lt_succ_of_lt (events.known listener event notified found) }

def listen (events : RecordedEvents) (event : Nat) (isEvent : event < events.made) :
    RecordedEvents where
  made := events.made
  next := events.next + 1
  listeners := Function.update events.listeners events.next (some (event, false))
  fresh listener later := by
    rw [Function.update_of_ne (by omega)]
    exact events.fresh listener (by omega)
  known listener other notified found := by
    by_cases same : listener = events.next
    · subst same
      simp only [Function.update_self, Option.some.injEq, Prod.mk.injEq] at found
      omega
    · rw [Function.update_of_ne same] at found
      exact events.known listener other notified found

def notify (events : RecordedEvents) (event : Nat) : RecordedEvents where
  made := events.made
  next := events.next
  listeners listener := (events.listeners listener).map fun (other, notified) =>
    (other, notified || other == event)
  fresh listener later := by simp [events.fresh listener later]
  known listener other notified found := by
    obtain ⟨⟨event', notified'⟩, before, same⟩ := Option.map_eq_some_iff.mp found
    have isOther : event' = other := congrArg Prod.fst same
    exact isOther ▸ events.known listener event' notified' before

def drop (events : RecordedEvents) (listener : Nat) : RecordedEvents where
  made := events.made
  next := events.next
  listeners := Function.update events.listeners listener none
  fresh other later := by
    by_cases same : other = listener
    · simp [same]
    · rw [Function.update_of_ne same]
      exact events.fresh other later
  known other event notified found := by
    by_cases same : other = listener
    · simp [same] at found
    · rw [Function.update_of_ne same] at found
      exact events.known other event notified found

end RecordedEvents

def recordedEvents : EventCrate RecordedEvents Nat where
  new events := (events.made, events.new)
  listen events event :=
    (events.next, if isEvent : event < events.made then events.listen event isEvent else events)
  notify events event _ := events.notify event
  drop := RecordedEvents.drop
  isEvent events event := event < events.made
  listensTo events listener := (events.listeners listener).map Prod.fst
  isNotified events listener := ((events.listeners listener).map Prod.snd).getD false

theorem recordedEvents_lawful : recordedEvents.Lawful where
  isEvent_of_listensTo events listener event listens := by
    obtain ⟨⟨event', notified⟩, found, same⟩ := Option.map_eq_some_iff.mp listens
    cases same
    exact events.known listener event' notified found
  new_fresh events := by simp [recordedEvents]
  isEvent_new events event := by
    simp only [recordedEvents, RecordedEvents.new]
    omega
  new_same events listener := ⟨rfl, rfl⟩
  listen_fresh events event := by simp [recordedEvents, events.fresh events.next (Nat.le_refl _)]
  isEvent_listen events event other isEvent := by
    have isEvent : event < events.made := isEvent
    simp [recordedEvents, isEvent, RecordedEvents.listen]
  listensTo_listen events event isEvent := by
    have isEvent : event < events.made := isEvent
    simp [recordedEvents, isEvent, RecordedEvents.listen]
  isNotified_listen events event isEvent := by
    have isEvent : event < events.made := isEvent
    simp [recordedEvents, isEvent, RecordedEvents.listen]
  listen_same events event listener differs := by
    have differs : listener ≠ events.next := differs
    by_cases isEvent : event < events.made
    · constructor
      · simp [recordedEvents, isEvent, RecordedEvents.listen, Function.update_of_ne differs]
      · simp [recordedEvents, isEvent, RecordedEvents.listen, Function.update_of_ne differs]
    · constructor
      · simp [recordedEvents, isEvent]
      · simp [recordedEvents, isEvent]
  isEvent_notify events event n other := Iff.rfl
  listensTo_notify events event n listener := by
    simp only [recordedEvents, RecordedEvents.notify]
    cases events.listeners listener <;> rfl
  isNotified_notify events event listener := by
    simp only [recordedEvents, RecordedEvents.notify]
    cases events.listeners listener <;> simp
  isEvent_drop events listener event := Iff.rfl
  listensTo_dropped events listener := by simp [recordedEvents, RecordedEvents.drop]
  listensTo_drop events listener other differs := by
    simp [recordedEvents, RecordedEvents.drop, Function.update_of_ne differs]
  drop_keeps events listener other differs notified := by
    simpa [recordedEvents, RecordedEvents.drop, Function.update_of_ne differs] using notified
  drop_passes events listener other differs notified := by
    left
    simpa [recordedEvents, RecordedEvents.drop, Function.update_of_ne differs] using notified

end Samples

open Samples in
/-- One task takes an entry and another one waits for it. -/
theorem waiter_is_awake : ∃ s : LockState Bool RecordedEvents Nat,
    s.waiting true = some (⟨5⟩, 0) ∧ s.guards = [(false, ⟨⟨5⟩⟩)] ∧
      s.Exclusive ∧ s.Releasable recordedEvents ∧ s.Awake recordedEvents ∧
      s.Notifies recordedEvents := by
  let start : LockState Bool RecordedEvents Nat := initial RecordedEvents.empty
  have first : Run (LockStep recordedEvents) (fun _ _ => True) start _ :=
    Run.step .start trivial (@LockStep.taken _ _ _ _ _ start false ⟨5⟩ _ _ _ rfl rfl)
  have second := Run.step first trivial
    (@LockStep.needWait _ _ _ _ _ _ true ⟨5⟩ _ _ _ rfl rfl)
  refine ⟨_, ?_, ?_, update_locks_exclude_and_wake recordedEvents_lawful _ second⟩
  · rfl
  · rfl

open Samples in
theorem update_locks_refine_table_waiter : ∃ (s : LockState Bool RecordedEvents Nat)
    (locks : UpdateLocks), s.waiting true = some (⟨5⟩, 0) ∧
      [LockAction.take false ⟨5⟩, .take true ⟨5⟩].foldlM LockAction.onTable .new = .ok locks ∧
      s.lock.Shows locks := by
  have first : Run (Recorded (LockStep recordedEvents)) (fun _ _ => True)
      (initial RecordedEvents.empty, []) _ :=
    Run.start.record trivial (@LockStep.taken _ _ _ _ _ (initial _) false ⟨5⟩ _ _ _ rfl rfl)
  have second := first.record trivial (@LockStep.needWait _ _ _ _ _ _ true ⟨5⟩ _ _ _ rfl rfl)
  obtain ⟨locks, same, shown, -⟩ := update_locks_refine_table recordedEvents_lawful second
  exact ⟨_, locks, rfl, same, shown⟩

end ParsecCloud.LockedEntries

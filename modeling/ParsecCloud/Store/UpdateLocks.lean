import ParsecCloud.Lib.Dict
import ParsecCloud.Lib.Rust
import ParsecCloud.Store.Cache

/- The update locks with the events of those who wait for them
   (store/per_manifest_update_lock.rs). A lock is in the table while it is taken; a guard that is
   dropped does not release it. -/
namespace ParsecCloud
open Rust

inductive EntryLockState where
  | taken
  | takenWithConcurrency (event : Nat)
  deriving DecidableEq

structure ManifestUpdateLockGuard where
  entryId : VlobID
  deriving DecidableEq

inductive ManifestUpdateLockTakeOutcome where
  | taken (guard : ManifestUpdateLockGuard)
  | needWait (event : Nat)
  deriving DecidableEq

/-- The events are numbered as they are made. -/
structure UpdateLocks where
  perManifestLock : Dict VlobID EntryLockState
  nextEvent : Nat
  notified : List Nat

/-- The event to notify when the lock is released. -/
def EntryLockState.event : EntryLockState → List Nat
  | taken => []
  | takenWithConcurrency event => [event]

namespace UpdateLocks

def new : UpdateLocks := ⟨.empty, 0, []⟩

def isTaken (locks : UpdateLocks) (entryId : VlobID) : Bool :=
  (locks.perManifestLock.get? entryId).isSome

def take (locks : UpdateLocks) (entryId : VlobID) : ManifestUpdateLockTakeOutcome × UpdateLocks :=
  match locks.perManifestLock.get? entryId with
  | none =>
    (.taken ⟨entryId⟩,
      { locks with perManifestLock := locks.perManifestLock.set entryId .taken })
  | some .taken =>
    (.needWait locks.nextEvent,
      { locks with
        perManifestLock := locks.perManifestLock.set entryId (.takenWithConcurrency locks.nextEvent)
        nextEvent := locks.nextEvent + 1 })
  | some (.takenWithConcurrency event) => (.needWait event, locks)

def tryTake (locks : UpdateLocks) (entryId : VlobID) :
    Option ManifestUpdateLockGuard × UpdateLocks :=
  match locks.perManifestLock.get? entryId with
  | none =>
    (some ⟨entryId⟩, { locks with perManifestLock := locks.perManifestLock.set entryId .taken })
  | some _ => (none, locks)

def release (locks : UpdateLocks) (guard : ManifestUpdateLockGuard) : Checked UpdateLocks :=
  match locks.perManifestLock.get? guard.entryId with
  | none => .error (.expect "Must be present")
  | some state =>
    .ok { locks with
      perManifestLock := locks.perManifestLock.erase guard.entryId
      notified := locks.notified ++ state.event }

/-- The locks that are taken. -/
def held (locks : UpdateLocks) : PerManifestUpdateLock := locks.perManifestLock.keys.toFinset

theorem mem_held {locks : UpdateLocks} {id : VlobID} :
    id ∈ locks.held ↔ ∃ state, locks.perManifestLock.get? id = some state := by
  rw [held, List.mem_toFinset]
  cases found : locks.perManifestLock.get? id with
  | none => simp [Dict.get?_eq_none_iff.mp found]
  | some state => simp [Dict.mem_keys_of_mem (Dict.get?_eq_some_iff.mp found)]

@[simp] theorem held_new : new.held = ∅ := rfl

/-- The locks of the other entries stay as they are. -/
def KeepsOthers (locks locks' : UpdateLocks) (id : VlobID) : Prop :=
  ∀ other, other ≠ id → locks'.perManifestLock.get? other = locks.perManifestLock.get? other

theorem take_free {locks : UpdateLocks} {id : VlobID} (free : id ∉ locks.held) :
    ∃ locks', locks.take id = (.taken ⟨id⟩, locks') ∧ locks.tryTake id = (some ⟨id⟩, locks') ∧
      locks'.held = insert id locks.held ∧ locks.KeepsOthers locks' id := by
  have absent : locks.perManifestLock.get? id = none := by
    cases found : locks.perManifestLock.get? id with
    | none => rfl
    | some state => exact absurd (mem_held.mpr ⟨state, found⟩) free
  refine ⟨{ locks with perManifestLock := locks.perManifestLock.set id .taken }, ?_, ?_, ?_, ?_⟩
  · rw [take, absent]
  · rw [tryTake, absent]
  · ext other
    rw [Finset.mem_insert, mem_held, mem_held, Dict.get?_set]
    by_cases same : other = id
    · simp [same]
    · simp [same]
  · intro other differs
    exact Dict.get?_set_of_ne differs

theorem take_busy {locks : UpdateLocks} {id : VlobID} (busy : id ∈ locks.held) :
    ∃ event locks', locks.take id = (.needWait event, locks') ∧ locks.tryTake id = (none, locks) ∧
      locks'.held = locks.held ∧
      locks'.perManifestLock.get? id = some (.takenWithConcurrency event) := by
  obtain ⟨state, found⟩ := mem_held.mp busy
  cases state with
  | taken =>
    refine ⟨locks.nextEvent, _, by rw [take, found], by rw [tryTake, found], ?_,
      Dict.get?_set_self _ _ _⟩
    ext other
    rw [mem_held, mem_held, Dict.get?_set]
    by_cases same : other = id
    · simp [same, found]
    · simp [same]
  | takenWithConcurrency event =>
    exact ⟨event, locks, by rw [take, found], by rw [tryTake, found], rfl, found⟩

theorem release_held {locks : UpdateLocks} {guard : ManifestUpdateLockGuard}
    (isHeld : guard.entryId ∈ locks.held) :
    ∃ locks', locks.release guard = .ok locks' ∧ locks'.held = locks.held.erase guard.entryId ∧
      locks.KeepsOthers locks' guard.entryId ∧ locks.notified ⊆ locks'.notified ∧
      ∀ event, locks.perManifestLock.get? guard.entryId = some (.takenWithConcurrency event) →
        event ∈ locks'.notified := by
  obtain ⟨state, found⟩ := mem_held.mp isHeld
  refine ⟨_, by rw [release, found], ?_, ?_, ?_, ?_⟩
  · ext other
    rw [Finset.mem_erase, mem_held, mem_held, Dict.get?_erase]
    by_cases same : other = guard.entryId
    · simp [same]
    · simp [same]
  · intro other differs
    exact (Dict.get?_erase _ _ _).trans (if_neg differs)
  · exact List.subset_append_left _ _
  · intro event waits
    rw [found] at waits
    cases waits
    simp [EntryLockState.event]

/-- The guards are released one after the other. -/
def releaseAll (locks : UpdateLocks) (guards : List ManifestUpdateLockGuard) :
    Checked UpdateLocks :=
  guards.foldlM release locks

theorem releaseAll_held {locks : UpdateLocks} {guards : List ManifestUpdateLockGuard}
    (nodup : (guards.map (·.entryId)).Nodup) (isHeld : ∀ guard ∈ guards, guard.entryId ∈ locks.held) :
    ∃ locks', locks.releaseAll guards = .ok locks' ∧
      (∀ id, id ∈ locks'.held ↔ id ∈ locks.held ∧ id ∉ guards.map (·.entryId)) ∧
      locks.notified ⊆ locks'.notified ∧
      ∀ guard ∈ guards, ∀ event,
        locks.perManifestLock.get? guard.entryId = some (.takenWithConcurrency event) →
          event ∈ locks'.notified := by
  induction guards generalizing locks with
  | nil => exact ⟨locks, rfl, by simp, List.Subset.refl _, by simp⟩
  | cons guard rest previous =>
    rw [List.map_cons, List.nodup_cons] at nodup
    obtain ⟨locks₁, released, held₁, others, notified₁, wakes₁⟩ :=
      release_held (isHeld guard List.mem_cons_self)
    have differs : ∀ later ∈ rest, later.entryId ≠ guard.entryId := by
      intro later isLater same
      exact nodup.1 (same ▸ List.mem_map_of_mem isLater)
    have isHeld₁ : ∀ later ∈ rest, later.entryId ∈ locks₁.held := by
      intro later isLater
      rw [held₁, Finset.mem_erase]
      exact ⟨differs later isLater, isHeld later (List.mem_cons_of_mem _ isLater)⟩
    obtain ⟨locks', releasedAll, held', notified', wakes'⟩ := previous nodup.2 isHeld₁
    refine ⟨locks', ?_, ?_, List.Subset.trans notified₁ notified', ?_⟩
    · rw [releaseAll, List.foldlM_cons, released]
      exact releasedAll
    · intro id
      rw [held', held₁, Finset.mem_erase, List.map_cons, List.mem_cons, not_or, and_assoc]
      exact and_left_comm
    · intro later isLater event waits
      rcases List.mem_cons.mp isLater with rfl | isRest
      · exact notified' (wakes₁ event waits)
      · apply wakes' later isRest event
        rw [others later.entryId (differs later isRest)]
        exact waits

end UpdateLocks
end ParsecCloud

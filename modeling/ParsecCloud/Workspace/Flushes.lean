import ParsecCloud.Workspace.Table

/- The mutex of an opened file has one holder at most, and a manifest that differs from the one in
   the storage is flagged for a flush. -/
namespace ParsecCloud
open Rust HashMap

/-- The opened file whose mutex the task holds. -/
def Task.mutex : Task → Option Handle
  | flushing handle _ _ => some handle
  | _ => none

namespace State

def mutexOf (s : State) (t : TaskId) : Option Handle := (s.tasks.lookup t).bind Task.mutex

structure FlushesSound (s : State) : Prop where
  exclusive : ∀ t t' handle, s.mutexOf t = some handle → s.mutexOf t' = some handle → t = t'
  needed : ∀ t handle, s.mutexOf t = some handle →
    ∃ f, s.files.lookup handle = some f ∧ f.flushNeeded = true
  clean : ∀ handle f, s.files.lookup handle = some f → f.flushNeeded = false → f.manifest = f.flushed

end State

open State

theorem mutexOf_task {s : State} {t : TaskId} {old : Option Task} (found : s.tasks.lookup t = old) :
    s.mutexOf t = old.bind Task.mutex := by
  rw [mutexOf, found]

theorem mutexFree_mutexOf {s : State} {handle : Handle} (free : s.MutexFree handle) (t : TaskId) :
    s.mutexOf t ≠ some handle := by
  intro held
  obtain ⟨task, found, mutex⟩ := Option.bind_eq_some_iff.mp held
  cases task with
  | flushing other block after =>
    cases mutex
    exact free t block after found
  | _ => cases mutex

theorem mutex_handles {task : Task} {handle : Handle} (held : task.mutex = some handle) :
    handle ∈ task.handles := by
  cases task with
  | flushing other block after =>
    cases held
    cases after <;> simp [Task.handles]
  | _ => cases held

theorem after_mutex {handle : Handle} {after : AfterFlush} :
    (after.task handle).bind Task.mutex = none := by
  cases after <;> rfl

theorem flushOr_mutex {f : OpenedFile} {handle other : Handle} {after : AfterFlush}
    (held : (flushOr f handle after).bind Task.mutex = some other) :
    other = handle ∧ f.flushNeeded = true := by
  unfold flushOr at held
  split at held
  · rename_i needed
    cases held
    exact ⟨rfl, needed⟩
  · rw [after_mutex] at held
    cases held

theorem next_mutex {entryId : VlobID} {next : Option (LocalFileManifest × SyncPhase)} :
    (next.map fun (m, phase) => Task.syncing entryId m phase).bind Task.mutex = none := by
  cases next <;> rfl

section Steps
variable {s s' : State} {t : TaskId} {old new : Option Task}

/-- A task takes a mutex that is free, keeps the one it has, or has none; the files whose mutex is
    held by others stay flagged. -/
theorem flushesSound_change (sound : s.FlushesSound)
    (tasks : ∀ t', s'.tasks.lookup t' = if t' = t then new else s.tasks.lookup t')
    (mine : ∀ handle, new.bind Task.mutex = some handle →
      (∀ t', t' ≠ t → s.mutexOf t' ≠ some handle) ∧
        ∃ f, s'.files.lookup handle = some f ∧ f.flushNeeded = true)
    (others : ∀ t', t' ≠ t → ∀ handle f, s.mutexOf t' = some handle →
      s.files.lookup handle = some f → f.flushNeeded = true →
      ∃ f', s'.files.lookup handle = some f' ∧ f'.flushNeeded = true)
    (clean : ∀ handle f, s'.files.lookup handle = some f → f.flushNeeded = false →
      f.manifest = f.flushed) : s'.FlushesSound := by
  have mutex : ∀ t', s'.mutexOf t' = if t' = t then new.bind Task.mutex else s.mutexOf t' := by
    intro t'
    unfold mutexOf
    rw [tasks]
    split <;> rfl
  refine ⟨?_, ?_, clean⟩
  · intro a b handle first second
    rw [mutex] at first second
    by_cases left : a = t <;> by_cases right : b = t
    · rw [left, right]
    · simp only [left, if_true, right, if_false] at first second
      exact absurd second ((mine handle first).1 b right)
    · simp only [left, if_false, right, if_true] at first second
      exact absurd first ((mine handle second).1 a left)
    · simp only [left, right, if_false] at first second
      exact sound.exclusive a b handle first second
  · intro a handle held
    rw [mutex] at held
    split at held
    · exact (mine handle held).2
    · rename_i other
      obtain ⟨f, found, needed⟩ := sound.needed a handle held
      exact others a other handle f held found needed

theorem flushesSound_same (sound : s.FlushesSound) (files : s'.files = s.files)
    (tasks : ∀ t', s'.tasks.lookup t' = if t' = t then new else s.tasks.lookup t')
    (none_ : new.bind Task.mutex = none) : s'.FlushesSound := by
  refine flushesSound_change sound tasks ?_ ?_ ?_
  · intro handle held
    rw [none_] at held
    cases held
  · intro t' _ handle f _ found needed
    exact ⟨f, by rw [files, found], needed⟩
  · rw [files]
    exact sound.clean

theorem flushesSound_file {handle : Handle} {f' : OpenedFile} (sound : s.FlushesSound)
    (files : s'.files = s.files.insert handle f')
    (tasks : ∀ t', s'.tasks.lookup t' = if t' = t then new else s.tasks.lookup t')
    (alone : ∀ t', t' ≠ t → s.mutexOf t' ≠ some handle)
    (mine : ∀ other, new.bind Task.mutex = some other → other = handle ∧ f'.flushNeeded = true)
    (clean : f'.flushNeeded = false → f'.manifest = f'.flushed) : s'.FlushesSound := by
  refine flushesSound_change sound tasks ?_ ?_ ?_
  · intro other held
    obtain ⟨rfl, needed⟩ := mine other held
    exact ⟨alone, f', by simp [files], needed⟩
  · intro t' differs other f held found needed
    refine ⟨f, ?_, needed⟩
    have elsewhere : other ≠ handle := by
      rintro rfl
      exact alone t' differs held
    rw [files, lookup_insert_ite, if_neg elsewhere, found]
  · intro other f found quiet
    rw [files, lookup_insert_ite] at found
    split at found
    · cases found
      exact clean quiet
    · exact sound.clean other f found quiet

theorem flushesSound_destroy {handle : Handle} {f : OpenedFile} (sound : s.FlushesSound)
    (sole : s.SoleOwner t handle) (none_ : new.bind Task.mutex = none) :
    ((s.destroy handle f).setTask t new).FlushesSound := by
  refine flushesSound_change sound (lookup_setTask _ _ · _) ?_ ?_ ?_
  · intro other held
    rw [none_] at held
    cases held
  · intro t' differs other g held found needed
    refine ⟨g, ?_, needed⟩
    obtain ⟨task, present, mutex⟩ := Option.bind_eq_some_iff.mp held
    have elsewhere : other ≠ handle := by
      rintro rfl
      exact sole.2 t' task differs present (mutex_handles mutex)
    exact (lookup_erase_ite _ _ _).trans ((if_neg elsewhere).trans found)
  · intro other g found quiet
    change (s.files.erase handle).lookup other = some g at found
    rw [lookup_erase_ite] at found
    split at found
    · cases found
    · exact sound.clean other g found quiet

theorem flushesSound_step {fromData : List Byte → HashDigest} (sound : s.FlushesSound)
    (step : Step fromData s t s') : s'.FlushesSound := by
  have same := fun {s' : State} {new : Option Task} => @flushesSound_same s s' t new sound
  cases step with
  | task found moved =>
    cases moved with
    | flushError => exact same rfl (lookup_setTask _ _ · _) after_mutex
    | closeAllFlush free file =>
      refine flushesSound_change sound (lookup_setTask _ _ · _) ?_ ?_ sound.clean
      · intro handle held
        obtain ⟨rfl, needed⟩ := flushOr_mutex held
        exact ⟨fun t' _ => mutexFree_mutexOf free t', _, file, needed⟩
      · intro t' _ handle f _ found' needed
        exact ⟨f, found', needed⟩
    | _ => exact same rfl (lookup_setTask _ _ · _) rfl
  | openNew found _ _ unused opened =>
    refine flushesSound_file sound rfl (lookup_setTask _ _ · _) ?_ (by simp)
      (OpenedFile.opened_spec opened).2.2.2.2
    intro t' _ held
    obtain ⟨f, present, -⟩ := sound.needed t' _ held
    rw [unused] at present
    cases present
  | join found free file joined =>
    obtain ⟨-, flushed, -, -, -, -, quiet⟩ := OpenedFile.join_spec joined
    refine flushesSound_file sound rfl (lookup_setTask _ _ · _)
      (fun t' _ => mutexFree_mutexOf free t') (by simp) ?_
    intro unflagged
    obtain ⟨before, manifest⟩ := quiet unflagged
    rw [flushed, manifest]
    exact sound.clean _ _ file before
  | perform found free file _ _ _ performed =>
    obtain ⟨same, flagged⟩ := OpenedFile.perform_spec performed
    refine flushesSound_file sound rfl (lookup_setTask _ _ · _)
      (fun t' _ => mutexFree_mutexOf free t') ?_ ?_
    · intro other held
      split at held
      · exact flushOr_mutex held
      · cases held
    · intro unflagged
      rcases flagged with rfl | flagged
      · exact sound.clean _ _ file unflagged
      · rw [flagged] at unflagged
        cases unflagged
  | reshapeSlot _ found file _ _ _ reshaped =>
    have held := mutexOf_task found
    obtain ⟨f, present, needed⟩ := sound.needed t _ held
    rw [file] at present
    cases present
    have flagged := (OpenedFile.reshapeSlot_spec reshaped).2.trans needed
    refine flushesSound_file sound rfl (lookup_setTask _ _ · _) ?_ ?_ ?_
    · intro t' differs held'
      exact differs (sound.exclusive t' t _ held' held)
    · intro other mutex
      cases mutex
      exact ⟨rfl, flagged⟩
    · intro unflagged
      rw [flagged] at unflagged
      cases unflagged
  | flushStores found file =>
    refine flushesSound_file sound rfl (lookup_setTask _ _ · _) ?_ ?_ (fun _ => rfl)
    · intro t' differs held'
      exact differs (sound.exclusive t' t _ held' (mutexOf_task found))
    · intro other mutex
      rw [after_mutex] at mutex
      cases mutex
  | removeCursor found free file =>
    have clean := sound.clean _ _ file
    exact flushesSound_file sound rfl (lookup_setTask _ _ · _)
      (fun t' _ => mutexFree_mutexOf free t') (fun _ => flushOr_mutex) clean
  | destroy _ sole => exact flushesSound_destroy sound sole rfl
  | closeAllDestroy _ sole => exact flushesSound_destroy sound sole rfl
  | tablePanics => exact ⟨sound.exclusive, sound.needed, sound.clean⟩
  | stop => exact ⟨sound.exclusive, sound.needed, sound.clean⟩
  | storeUpdate => exact same rfl (lookup_setTask _ _ · _) next_mutex
  | release => exact same rfl (lookup_setTask _ _ · _) next_mutex
  | _ => exact same rfl (lookup_setTask _ _ · _) rfl

end Steps
end ParsecCloud

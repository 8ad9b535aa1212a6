import ParsecCloud.Workspace.System

/- The table of file descriptors and the opened files agree. -/
namespace ParsecCloud
open Rust HashMap

namespace State

@[simp] theorem lookup_setTask (s : State) (t t' : TaskId) (new : Option Task) :
    (s.setTask t new).tasks.lookup t' = if t' = t then new else s.tasks.lookup t' := by
  cases new with
  | none => exact lookup_erase_ite s.tasks t t'
  | some task => exact lookup_insert_ite s.tasks t t' task

@[simp] theorem lookup_setFile (s : State) (handle handle' : Handle) (f : OpenedFile) :
    (s.setFile handle f).files.lookup handle' =
      if handle' = handle then some f else s.files.lookup handle' :=
  lookup_insert_ite s.files handle handle' f

/-- An open that waits for the mutex of a file has the updater of the entry of that file. -/
def JoinsEntry (s : State) : Option Task → Prop
  | some (.joining handle entryId updater _ _) =>
    (∃ f, s.files.lookup handle = some f ∧ f.entryId = entryId) ∧
      ∀ u, updater = some u → u.entryId = entryId
  | _ => True

structure TableSound (s : State) : Prop where
  described : ∀ fd entryId, s.fileDescriptors.lookup fd = some entryId →
    ∃ handle, s.openedFiles.lookup entryId = some handle
  opened : ∀ entryId handle, s.openedFiles.lookup entryId = some handle →
    ∃ f, s.files.lookup handle = some f ∧ f.entryId = entryId
  inUse : ∀ entryId handle, s.openedFiles.lookup entryId = some handle →
    ∃ fd, s.fileDescriptors.lookup fd = some entryId
  issued : ∀ fd entryId, s.fileDescriptors.lookup fd = some entryId → fd < s.nextFileDescriptor
  joins : ∀ t, s.JoinsEntry (s.tasks.lookup t)

/-- Opened files stay, for the entry they were opened for. -/
def KeepsFiles (s s' : State) : Prop :=
  ∀ handle f, s.files.lookup handle = some f →
    ∃ f', s'.files.lookup handle = some f' ∧ f'.entryId = f.entryId

end State

open State

theorem keepsFiles_of_eq {s s' : State} (same : s'.files = s.files) : KeepsFiles s s' := by
  intro handle f found
  exact ⟨f, by rw [same, found], rfl⟩

theorem keepsFiles_set {s s' : State} {handle : Handle} {f f' : OpenedFile}
    (found : s.files.lookup handle = some f) (set : s'.files = s.files.insert handle f')
    (same : f'.entryId = f.entryId) : KeepsFiles s s' := by
  intro other g present
  rw [set, lookup_insert_ite]
  by_cases here : other = handle
  · subst here
    rw [found] at present
    cases present
    exact ⟨f', by simp, same⟩
  · exact ⟨g, by simp [here, present], rfl⟩

theorem joinsEntry_keeps {s s' : State} {task : Option Task} (keeps : KeepsFiles s s')
    (joins : s.JoinsEntry task) : s'.JoinsEntry task := by
  unfold JoinsEntry at joins ⊢
  split
  · obtain ⟨⟨f, found, entry⟩, own⟩ := joins
    obtain ⟨f', found', entry'⟩ := keeps _ f found
    exact ⟨⟨f', found', entry'.trans entry⟩, own⟩
  · trivial

theorem tableSound_same {s s' : State} {t : TaskId} {new : Option Task} (sound : s.TableSound)
    (descriptors : s'.fileDescriptors = s.fileDescriptors) (files : s'.openedFiles = s.openedFiles)
    (next : s'.nextFileDescriptor = s.nextFileDescriptor) (keeps : KeepsFiles s s')
    (tasks : ∀ t', s'.tasks.lookup t' = if t' = t then new else s.tasks.lookup t')
    (joins : s'.JoinsEntry new) : s'.TableSound := by
  refine ⟨?_, ?_, ?_, ?_, ?_⟩
  · rw [descriptors, files]
    exact sound.described
  · intro entryId handle found
    rw [files] at found
    obtain ⟨f, present, entry⟩ := sound.opened entryId handle found
    obtain ⟨f', present', entry'⟩ := keeps handle f present
    exact ⟨f', present', entry'.trans entry⟩
  · rw [descriptors, files]
    exact sound.inUse
  · rw [descriptors, next]
    exact sound.issued
  · intro t'
    rw [tasks]
    split
    · exact joins
    · exact joinsEntry_keeps keeps (sound.joins t')

theorem after_joins {s : State} {handle : Handle} {after : AfterFlush} :
    s.JoinsEntry (after.task handle) := by
  cases after <;> trivial

theorem flushOr_joins {s : State} {f : OpenedFile} {handle : Handle} {after : AfterFlush} :
    s.JoinsEntry (flushOr f handle after) := by
  unfold flushOr
  split
  · trivial
  · exact after_joins

theorem taskStep_joins {s s' : State} {old new : Option Task} (step : TaskStep s old new) :
    s'.JoinsEntry new := by
  cases step with
  | flushError => exact after_joins
  | closeAllFlush => exact flushOr_joins
  | _ => trivial

theorem updater_entry {options : OpenOptions} {entryId : VlobID} {updater : FileUpdater}
    (own : options.updater entryId = some updater) : updater.entryId = entryId := by
  unfold OpenOptions.updater at own
  split at own
  · cases own
    rfl
  · cases own

theorem tableSound_add {s s' : State} {t : TaskId} {entryId : VlobID} {handle : Handle}
    {updater : Option FileUpdater} {cursor : OpenedFileCursor} {truncate : Bool}
    (sound : s.TableSound) (found : s.openedFiles.lookup entryId = some handle)
    (own : ∀ u, updater = some u → u.entryId = entryId)
    (descriptors : s'.fileDescriptors = s.fileDescriptors.insert s.nextFileDescriptor entryId)
    (next : s'.nextFileDescriptor = s.nextFileDescriptor + 1)
    (opened : s'.openedFiles = s.openedFiles) (files : s'.files = s.files)
    (tasks : ∀ t', s'.tasks.lookup t' = if t' = t then
      some (.joining handle entryId updater cursor truncate) else s.tasks.lookup t') :
    s'.TableSound := by
  refine ⟨?_, ?_, ?_, ?_, ?_⟩
  · intro fd other present
    rw [descriptors, lookup_insert_ite] at present
    rw [opened]
    split at present
    · cases present
      exact ⟨handle, found⟩
    · exact sound.described fd other present
  · rw [opened, files]
    exact sound.opened
  · intro other handle' present
    rw [opened] at present
    obtain ⟨fd, described⟩ := sound.inUse other handle' present
    refine ⟨fd, ?_⟩
    have older := sound.issued fd other described
    rw [descriptors, lookup_insert_ite, if_neg (by omega), described]
  · intro fd other present
    rw [descriptors, lookup_insert_ite] at present
    rw [next]
    split at present
    · omega
    · have older := sound.issued fd other present
      omega
  · intro t'
    rw [tasks]
    split
    · refine ⟨?_, own⟩
      rw [files]
      exact sound.opened entryId handle found
    · exact joinsEntry_keeps (keepsFiles_of_eq files) (sound.joins t')

theorem tableSound_destroy {s : State} {t : TaskId} {handle : Handle} {f : OpenedFile}
    {new : Option Task} (sound : s.TableSound) (sole : s.SoleOwner t handle)
    (joins : ∀ s' : State, s'.JoinsEntry new) : ((s.destroy handle f).setTask t new).TableSound := by
  have stays : ∀ other, other ≠ handle → (s.files.erase handle).lookup other = s.files.lookup other :=
    fun other differs => by rw [lookup_erase_ite, if_neg differs]
  refine ⟨sound.described, ?_, sound.inUse, sound.issued, ?_⟩
  · intro entryId other present
    obtain ⟨g, found, entry⟩ := sound.opened entryId other present
    refine ⟨g, ?_, entry⟩
    have differs : other ≠ handle := fun same => sole.1 entryId (same ▸ present)
    exact (stays other differs).trans found
  · intro t'
    rw [lookup_setTask]
    split
    · exact joins _
    · rename_i other
      change State.JoinsEntry _ (s.tasks.lookup t')
      have before := sound.joins t'
      cases task : s.tasks.lookup t' with
      | none => trivial
      | some task' =>
        rw [task] at before
        have unused := sole.2 t' task' other task
        cases task' with
        | joining handle' entryId updater cursor truncate =>
          obtain ⟨⟨g, found, entry⟩, own⟩ := before
          have differs : handle' ≠ handle := by simpa [Task.handles, eq_comm] using unused
          exact ⟨⟨g, (stays handle' differs).trans found, entry⟩, own⟩
        | _ => trivial

theorem tableSound_open {s s' : State} {t : TaskId} {entryId : VlobID} {handle : Handle}
    {f : OpenedFile} (sound : s.TableSound) (entry : f.entryId = entryId)
    (closed : s.openedFiles.lookup entryId = none) (unused : s.files.lookup handle = none)
    (descriptors : s'.fileDescriptors = s.fileDescriptors.insert s.nextFileDescriptor entryId)
    (next : s'.nextFileDescriptor = s.nextFileDescriptor + 1)
    (opened : s'.openedFiles = s.openedFiles.insert entryId handle)
    (files : s'.files = s.files.insert handle f)
    (tasks : ∀ t', s'.tasks.lookup t' = if t' = t then none else s.tasks.lookup t') :
    s'.TableSound := by
  have stays : ∀ other g, s.files.lookup other = some g → s'.files.lookup other = some g := by
    intro other g found
    have differs : other ≠ handle := by
      rintro rfl
      rw [unused] at found
      cases found
    rw [files, lookup_insert_ite, if_neg differs, found]
  have undescribed : ∀ fd, s.fileDescriptors.lookup fd ≠ some entryId := by
    intro fd described
    obtain ⟨other, present⟩ := sound.described fd entryId described
    rw [closed] at present
    cases present
  refine ⟨?_, ?_, ?_, ?_, ?_⟩
  · intro fd other present
    rw [descriptors, lookup_insert_ite] at present
    rw [opened, lookup_insert_ite]
    split at present
    · cases present
      exact ⟨handle, by simp⟩
    · obtain ⟨found, present'⟩ := sound.described fd other present
      have differs : other ≠ entryId := by
        rintro rfl
        exact undescribed fd present
      exact ⟨found, by rw [if_neg differs, present']⟩
  · intro other found present
    rw [opened, lookup_insert_ite] at present
    split at present
    · rename_i same
      cases present
      exact ⟨f, by simp [files], entry.trans same.symm⟩
    · obtain ⟨g, present', entry'⟩ := sound.opened other found present
      exact ⟨g, stays found g present', entry'⟩
  · intro other found present
    rw [opened, lookup_insert_ite] at present
    rw [descriptors]
    split at present
    · rename_i same
      exact ⟨s.nextFileDescriptor, by simp [same]⟩
    · obtain ⟨fd, described⟩ := sound.inUse other found present
      have older := sound.issued fd other described
      exact ⟨fd, by rw [lookup_insert_ite, if_neg (by omega), described]⟩
  · intro fd other present
    rw [descriptors, lookup_insert_ite] at present
    rw [next]
    split at present
    · omega
    · have older := sound.issued fd other present
      omega
  · intro t'
    rw [tasks]
    split
    · trivial
    · refine joinsEntry_keeps ?_ (sound.joins t')
      intro other g found
      exact ⟨g, stays other g found, rfl⟩

theorem tableSound_close {s : State} {t : TaskId} {fd : Nat} {entryId : VlobID} {handle : Handle}
    (sound : s.TableSound) (ours : s.fileDescriptors.lookup fd = some entryId) :
    ((s.removeDescriptor fd entryId).1.setTask t
      (some (.closing handle fd (s.removeDescriptor fd entryId).2))).TableSound := by
  have remains : ∀ other fd', (s.fileDescriptors.erase fd).lookup fd' = some other →
      s.fileDescriptors.lookup fd' = some other := by
    intro other fd' present
    rw [lookup_erase_ite] at present
    split at present
    · cases present
    · exact present
  have table : ∀ other found, (s.removeDescriptor fd entryId).1.openedFiles.lookup other = some found ↔
      s.openedFiles.lookup other = some found ∧
        (other = entryId → Holds (s.fileDescriptors.erase fd) entryId) := by
    intro other found
    change ((if _ then s.openedFiles else s.openedFiles.erase entryId : HashMap VlobID Handle).lookup
      other = some found) ↔ _
    split
    · rename_i still
      have still := of_decide_eq_true still
      exact ⟨fun present => ⟨present, fun _ => still⟩, And.left⟩
    · rename_i last
      have last : ¬ Holds (s.fileDescriptors.erase fd) entryId := by simpa using last
      rw [lookup_erase_ite]
      split
      · rename_i same
        simp [same, last]
      · rename_i differs
        simp [differs]
  refine ⟨?_, ?_, ?_, ?_, ?_⟩
  · intro fd' other present
    have described := remains other fd' present
    obtain ⟨found, present'⟩ := sound.described fd' other described
    exact ⟨found, (table other found).mpr ⟨present', fun same => ⟨fd', same ▸ present⟩⟩⟩
  · intro other found present
    exact sound.opened other found ((table other found).mp present).1
  · intro other found present
    obtain ⟨present, still⟩ := (table other found).mp present
    by_cases same : other = entryId
    · obtain ⟨fd', described⟩ := still same
      exact ⟨fd', same ▸ described⟩
    · obtain ⟨fd', described⟩ := sound.inUse other found present
      have differs : fd' ≠ fd := by
        rintro rfl
        rw [ours] at described
        exact same (Option.some.inj described).symm
      exact ⟨fd', (lookup_erase_ite _ _ _).trans ((if_neg differs).trans described)⟩
  · intro fd' other present
    exact sound.issued fd' other (remains other fd' present)
  · intro t'
    rw [lookup_setTask]
    split
    · trivial
    · exact joinsEntry_keeps (keepsFiles_of_eq rfl) (sound.joins t')

theorem tableSound_step {fromData : List Byte → HashDigest} {s s' : State} {t : TaskId}
    (sound : s.TableSound) (step : Step fromData s t s') : s'.TableSound := by
  have same := fun {s' : State} {new : Option Task} => @tableSound_same s s' t new sound
  cases step with
  | task _ moved =>
    exact same rfl rfl rfl (keepsFiles_of_eq rfl) (lookup_setTask _ _ · _) (taskStep_joins moved)
  | openNew _ _ closed unused opened =>
    exact tableSound_open sound (OpenedFile.opened_spec opened).1 closed unused rfl rfl rfl rfl
      (lookup_setTask _ _ · _)
  | openAgain _ _ opened =>
    exact tableSound_add sound opened (fun _ => updater_entry) rfl rfl rfl rfl (lookup_setTask _ _ · _)
  | openBlocked _ _ opened =>
    exact tableSound_add sound opened (by simp) rfl rfl rfl rfl (lookup_setTask _ _ · _)
  | join _ _ found joined =>
    exact same rfl rfl rfl (keepsFiles_set found rfl (OpenedFile.join_spec joined).1)
      (lookup_setTask _ _ · _) trivial
  | perform _ _ found _ _ _ performed =>
    refine same rfl rfl rfl (keepsFiles_set found rfl (OpenedFile.perform_spec performed).1.entryId)
      (lookup_setTask _ _ · _) ?_
    split
    · exact flushOr_joins
    · trivial
  | reshapeSlot _ _ found _ _ _ reshaped =>
    exact same rfl rfl rfl (keepsFiles_set found rfl (OpenedFile.reshapeSlot_spec reshaped).1.entryId)
      (lookup_setTask _ _ · _) trivial
  | flushStores _ found =>
    exact same rfl rfl rfl (keepsFiles_set found rfl rfl) (lookup_setTask _ _ · _) after_joins
  | close _ described => exact tableSound_close sound described
  | tablePanics _ _ =>
    exact ⟨sound.described, sound.opened, sound.inUse, sound.issued, sound.joins⟩
  | removeCursor _ _ found =>
    exact same rfl rfl rfl (keepsFiles_set found rfl rfl) (lookup_setTask _ _ · _) flushOr_joins
  | destroy _ sole _ => exact tableSound_destroy sound sole fun _ => trivial
  | closeAll _ _ _ =>
    refine ⟨?_, ?_, ?_, ?_, ?_⟩
    · intro fd entryId found
      cases found
    · intro entryId handle found
      cases found
    · intro entryId handle found
      cases found
    · intro fd entryId found
      cases found
    · intro t'
      rw [lookup_setTask]
      split
      · trivial
      · exact joinsEntry_keeps (keepsFiles_of_eq rfl) (sound.joins t')
  | closeAllDestroy _ sole _ _ => exact tableSound_destroy sound sole fun _ => trivial
  | stop => exact ⟨sound.described, sound.opened, sound.inUse, sound.issued, sound.joins⟩
  | storeUpdate | release =>
    refine same rfl rfl rfl (keepsFiles_of_eq rfl) (lookup_setTask _ _ · _) ?_
    rename_i next _
    cases next <;> trivial
  | _ => exact same rfl rfl rfl (keepsFiles_of_eq rfl) (lookup_setTask _ _ · _) trivial

end ParsecCloud

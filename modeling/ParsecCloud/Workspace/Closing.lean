import ParsecCloud.Workspace.Flushes
import ParsecCloud.Workspace.Locks

/- The life of an opened file: who is going to destroy it once it is out of the table, and the
   conditions under which it always has the updater that it needs. -/
namespace ParsecCloud
open Rust HashMap Runs

/-- The opened files that the task will destroy. -/
def Task.owns : Task → List Handle
  | closing handle _ false => [handle]
  | flushing handle _ .destroy => [handle]
  | flushing _ _ (.closeAll _ toDestroy) => toDestroy
  | destroying handle => [handle]
  | closingAll _ toDestroy => toDestroy
  | _ => []

def ownedBy : Option Task → List Handle
  | some task => task.owns
  | none => []

theorem owns_handles {task : Task} {handle : Handle} (owned : handle ∈ task.owns) :
    handle ∈ task.handles := by
  cases task with
  | closing other fd stillOpened =>
    cases stillOpened with
    | false => exact owned
    | true => cases owned
  | flushing other block after =>
    cases after with
    | finish => cases owned
    | destroy => exact owned
    | closeAll toFlush toDestroy =>
      exact List.mem_cons_of_mem _ (List.mem_append_right _ owned)
  | destroying other => exact owned
  | closingAll toFlush toDestroy => exact List.mem_append_right _ owned
  | _ => cases owned

/-- The conditions on a step. To truncate a file when it is first opened takes the write mode; an
    open that joins a file, with the write mode or to truncate it, finds an updater there or brings
    one; and the close that is to destroy a file finds its cursor. -/
def Safe (s : State) (t : TaskId) : Prop :=
  match s.tasks.lookup t with
  | some (.locked entryId options m) =>
    s.newOpenAllowed = true → s.openedFiles.lookup entryId = none → options.truncate = true →
      0 < m.size → options.write = true
  | some (.joining handle _ updater cursor truncate) => ∀ f, s.files.lookup handle = some f →
      cursor.writeMode = .allowed ∨ (truncate = true ∧ 0 < f.manifest.size) →
      f.updater.isSome = true ∨ updater.isSome = true
  | some (.closing handle fd false) => ∀ f, s.files.lookup handle = some f → f.cursorOf fd ≠ none
  | _ => True

namespace OpenedFile

def Writable (f : OpenedFile) : Prop :=
  f.flushNeeded = true ∨ ∃ cursor ∈ f.cursors, cursor.writeMode = .allowed

end OpenedFile

namespace State

structure Served (s : State) : Prop where
  table : s.TableSound
  locks : s.LocksSound
  flushes : s.FlushesSound
  updaters : ∀ handle f, s.files.lookup handle = some f → f.Writable → f.updater.isSome = true
  owned : ∀ handle f, s.files.lookup handle = some f →
    s.openedFiles.lookup f.entryId = some handle ∨ ∃ t, handle ∈ ownedBy (s.tasks.lookup t)
  calm : s.panicked = false

end State

open State

theorem after_owns {handle : Handle} {block : Nat} {after : AfterFlush} :
    ownedBy (after.task handle) = (Task.flushing handle block after).owns := by
  cases after <;> rfl

theorem flushing_owns {handle other : Handle} {block : Nat} (block' : Nat) {after : AfterFlush}
    (owned : other ∈ ownedBy (some (.flushing handle block after))) :
    other ∈ ownedBy (some (.flushing handle block' after)) := by
  cases after <;> exact owned

theorem afterClose_owns {handle : Handle} {fd block : Nat} {stillOpened : Bool} :
    (Task.flushing handle block (afterClose stillOpened)).owns =
      (Task.closing handle fd stillOpened).owns := by
  cases stillOpened <;> rfl

theorem flushOr_owns {f : OpenedFile} {handle : Handle} {after : AfterFlush} :
    ownedBy (flushOr f handle after) = (Task.flushing handle 0 after).owns := by
  unfold flushOr
  split
  · rfl
  · exact after_owns

theorem taskStep_owns {s : State} {t : TaskId} {old new : Option Task} (safe : Safe s t)
    (found : s.tasks.lookup t = old) (step : TaskStep s old new) :
    ∀ handle ∈ ownedBy old, handle ∈ ownedBy new := by
  cases step with
  | flushError =>
    rw [after_owns]
    exact fun _ owned => owned
  | cursorMissing free file missing =>
    rename_i stillOpened f
    cases stillOpened with
    | true =>
      intro handle owned
      cases owned
    | false =>
      unfold Safe at safe
      rw [found] at safe
      exact absurd missing (safe f file)
  | closeAllFlush =>
    rw [flushOr_owns]
    exact fun _ owned => owned
  | closeAllDone => exact fun _ owned => owned
  | _ =>
    intro handle owned
    cases owned

section Steps
variable {s s' : State} {t : TaskId} {old new : Option Task}

theorem owned_same (served : s.Served) (found : s.tasks.lookup t = old)
    (files : ∀ handle f', s'.files.lookup handle = some f' →
      ∃ f, s.files.lookup handle = some f ∧ f'.entryId = f.entryId)
    (table : s'.openedFiles = s.openedFiles)
    (tasks : ∀ t', s'.tasks.lookup t' = if t' = t then new else s.tasks.lookup t')
    (keeps : ∀ handle ∈ ownedBy old, handle ∈ ownedBy new) (handle : Handle) (f' : OpenedFile)
    (present : s'.files.lookup handle = some f') :
    s'.openedFiles.lookup f'.entryId = some handle ∨ ∃ t, handle ∈ ownedBy (s'.tasks.lookup t) := by
  obtain ⟨f, before, entry⟩ := files handle f' present
  rw [table, entry]
  rcases served.owned handle f before with listed | ⟨t', owned⟩
  · exact Or.inl listed
  · refine Or.inr ⟨t', ?_⟩
    rw [tasks]
    split
    · rename_i here
      rw [here, found] at owned
      exact keeps handle owned
    · exact owned

theorem files_same (files : s'.files = s.files) (handle : Handle) (f' : OpenedFile)
    (present : s'.files.lookup handle = some f') :
    ∃ f, s.files.lookup handle = some f ∧ f'.entryId = f.entryId :=
  ⟨f', files ▸ present, rfl⟩

theorem files_set {handle : Handle} {f f' : OpenedFile} (found : s.files.lookup handle = some f)
    (files : s'.files = s.files.insert handle f') (entry : f'.entryId = f.entryId) (other : Handle)
    (g : OpenedFile) (present : s'.files.lookup other = some g) :
    ∃ f, s.files.lookup other = some f ∧ g.entryId = f.entryId := by
  rw [files, lookup_insert_ite] at present
  split at present
  · rename_i here
    cases present
    exact ⟨f, by rw [here, found], entry⟩
  · exact ⟨g, present, rfl⟩

theorem updaters_set {handle : Handle} {f' : OpenedFile} (served : s.Served)
    (files : s'.files = s.files.insert handle f') (has : f'.Writable → f'.updater.isSome = true)
    (other : Handle) (g : OpenedFile) (present : s'.files.lookup other = some g) (writable : g.Writable) :
    g.updater.isSome = true := by
  rw [files, lookup_insert_ite] at present
  split at present
  · cases present
    exact has writable
  · exact served.updaters other g present writable

theorem served_step {fromData : List Byte → HashDigest} (served : s.Served)
    (step : Step fromData s t s')
    (updaters : ∀ handle f, s'.files.lookup handle = some f → f.Writable → f.updater.isSome = true)
    (owned : ∀ handle f, s'.files.lookup handle = some f →
      s'.openedFiles.lookup f.entryId = some handle ∨ ∃ t, handle ∈ ownedBy (s'.tasks.lookup t))
    (calm : s'.panicked = false) : s'.Served :=
  ⟨tableSound_step served.table step, locksSound_step served.table served.locks step,
    flushesSound_step served.flushes step, updaters, owned, calm⟩

theorem updaters_destroy {handle : Handle} {f : OpenedFile} (served : s.Served) (other : Handle)
    (g : OpenedFile) (present : ((s.destroy handle f).setTask t new).files.lookup other = some g)
    (writable : g.Writable) : g.updater.isSome = true := by
  change (s.files.erase handle).lookup other = some g at present
  rw [lookup_erase_ite] at present
  split at present
  · cases present
  · exact served.updaters other g present writable

theorem owned_destroy {handle : Handle} {f : OpenedFile} (served : s.Served)
    (found : s.tasks.lookup t = old)
    (keeps : ∀ other ∈ ownedBy old, other ≠ handle → other ∈ ownedBy new) (other : Handle)
    (g : OpenedFile) (present : ((s.destroy handle f).setTask t new).files.lookup other = some g) :
    s.openedFiles.lookup g.entryId = some other ∨
      ∃ t', other ∈ ownedBy (((s.destroy handle f).setTask t new).tasks.lookup t') := by
  change (s.files.erase handle).lookup other = some g at present
  rw [lookup_erase_ite] at present
  split at present
  · cases present
  rename_i differs
  rcases served.owned other g present with listed | ⟨t', owned⟩
  · exact Or.inl listed
  · refine Or.inr ⟨t', ?_⟩
    rw [lookup_setTask]
    split
    · rename_i here
      rw [here, found] at owned
      exact keeps other owned differs
    · exact owned

theorem owned_open {entryId : VlobID} {handle : Handle} {f : OpenedFile} {options : OpenOptions}
    (served : s.Served) (found : s.tasks.lookup t = old) (owns : ownedBy old = [])
    (entry : f.entryId = entryId) (closed : s.openedFiles.lookup entryId = none) (other : Handle)
    (g : OpenedFile) (present : (s.files.insert handle f).lookup other = some g) :
    (s.openedFiles.insert entryId handle).lookup g.entryId = some other ∨
      ∃ t', other ∈ ownedBy ((({ s with openedFiles := s.openedFiles.insert entryId handle
        }.addDescriptor entryId |>.setFile handle f |>.keepOrUnlock options entryId
          (.file handle)).setTask t none).tasks.lookup t') := by
  subst entry
  rw [lookup_insert_ite] at present
  split at present
  · rename_i here
    cases present
    exact Or.inl (by simp [here])
  · rcases served.owned other g present with listed | ⟨t', owned⟩
    · left
      have differs : g.entryId ≠ f.entryId := by
        intro same
        rw [same, closed] at listed
        cases listed
      rw [lookup_insert_ite, if_neg differs, listed]
    · refine Or.inr ⟨t', ?_⟩
      rw [lookup_setTask]
      split
      · rename_i here
        rw [here, found, owns] at owned
        cases owned
      · exact owned

theorem owned_close {fd : Nat} {entryId : VlobID} {handle : Handle} (served : s.Served)
    (found : s.tasks.lookup t = none) (opened : s.openedFiles.lookup entryId = some handle)
    (other : Handle) (g : OpenedFile) (present : s.files.lookup other = some g) :
    (s.removeDescriptor fd entryId).1.openedFiles.lookup g.entryId = some other ∨
      ∃ t', other ∈ ownedBy (((s.removeDescriptor fd entryId).1.setTask t
        (some (.closing handle fd (s.removeDescriptor fd entryId).2))).tasks.lookup t') := by
  rcases served.owned other g present with listed | ⟨t', owned⟩
  · cases still : (s.removeDescriptor fd entryId).2 with
    | true =>
      left
      have kept : (s.removeDescriptor fd entryId).1.openedFiles = s.openedFiles := if_pos still
      rw [kept, listed]
    | false =>
      have erased : (s.removeDescriptor fd entryId).1.openedFiles = s.openedFiles.erase entryId :=
        if_neg (ne_true_of_eq_false still)
      by_cases here : g.entryId = entryId
      · right
        rw [here, opened] at listed
        cases listed
        exact ⟨t, by simp [ownedBy, Task.owns]⟩
      · left
        rw [erased, lookup_erase_ite, if_neg here, listed]
  · refine Or.inr ⟨t', ?_⟩
    rw [lookup_setTask]
    split
    · rename_i here
      rw [here, found] at owned
      cases owned
    · exact owned

/-- What an open that joins a file has to find there or to bring. -/
theorem join_writable {f f' : OpenedFile} {updater : Option FileUpdater} {cursor : OpenedFileCursor}
    {truncate : Bool} {now : DateTime} (joined : f.join updater cursor truncate now = .ok f')
    (before : f.Writable → f.updater.isSome = true)
    (safe : cursor.writeMode = .allowed ∨ (truncate = true ∧ 0 < f.manifest.size) →
      f.updater.isSome = true ∨ updater.isSome = true)
    (writable : f'.Writable) : f'.updater.isSome = true := by
  obtain ⟨-, -, cursors, both, -, flagged, -⟩ := OpenedFile.join_spec joined
  have either : f.updater.isSome = true ∨ updater.isSome = true := by
    rcases writable with needed | ⟨c, member, mode⟩
    · rcases flagged needed with needed | truncates
      · exact Or.inl (before (Or.inl needed))
      · exact safe (Or.inr truncates)
    · rw [cursors] at member
      rcases List.mem_append.mp member with member | member
      · exact Or.inl (before (Or.inr ⟨c, member, mode⟩))
      · rw [List.mem_singleton.mp member] at mode
        exact safe (Or.inl mode)
  rw [both, Option.isSome_or]
  simpa using either

theorem served_keeps {fromData : List Byte → HashDigest} (served : s.Served) (safe : Safe s t)
    (step : Step fromData s t s') : s'.Served := by
  have keep := served_step served step
  cases step with
  | task found moved =>
    exact keep served.updaters (owned_same served found (files_same rfl) rfl (lookup_setTask _ _ · _)
      (taskStep_owns safe found moved)) served.calm
  | openNew found allowed closed unused opened =>
    obtain ⟨entry, updater, cursors, flagged, -⟩ := OpenedFile.opened_spec opened
    unfold Safe at safe
    rw [found] at safe
    refine keep (updaters_set served rfl ?_) ?_ served.calm
    · intro writable
      rw [updater, OpenOptions.updater, if_pos]
      · rfl
      · rcases writable with needed | ⟨cursor, member, mode⟩
        · exact safe allowed closed (flagged needed).1 (flagged needed).2
        · rw [cursors, List.mem_singleton] at member
          rw [member] at mode
          unfold OpenOptions.cursor at mode
          by_contra denied
          simp [denied] at mode
    · exact owned_open served found (by simp [ownedBy, Task.owns]) entry closed
  | openAgain found =>
    exact keep served.updaters (owned_same served found (files_same rfl) rfl (lookup_setTask _ _ · _)
      (by simp [ownedBy, Task.owns])) served.calm
  | openBlocked found =>
    exact keep served.updaters (owned_same served found (files_same rfl) rfl (lookup_setTask _ _ · _)
      (by simp [ownedBy, Task.owns])) served.calm
  | join found _ file joined =>
    unfold Safe at safe
    rw [found] at safe
    exact keep (updaters_set served rfl (join_writable joined (served.updaters _ _ file) (safe _ file)))
      (owned_same served found (files_set file rfl (OpenedFile.join_spec joined).1) rfl
        (lookup_setTask _ _ · _) (by simp [ownedBy, Task.owns])) served.calm
  | joinPanics found _ file has given =>
    rw [join_alone served.table served.locks found file has] at given
    cases given
  | perform found _ file cursor mode _ performed =>
    have same := (OpenedFile.perform_spec performed).1
    have has := served.updaters _ _ file (Or.inr ⟨_, List.mem_of_find?_eq_some cursor, mode⟩)
    exact keep (updaters_set served rfl (fun _ => by rw [same.updater, has]))
      (owned_same served found (files_set file rfl same.entryId) rfl (lookup_setTask _ _ · _)
        (by simp [ownedBy, Task.owns])) served.calm
  | reshapeSlot _ found file _ _ _ reshaped =>
    obtain ⟨same, flagged⟩ := OpenedFile.reshapeSlot_spec reshaped
    refine keep (updaters_set served rfl ?_)
      (owned_same served found (files_set file rfl same.entryId) rfl (lookup_setTask _ _ · _)
        (fun _ => flushing_owns _)) served.calm
    intro writable
    rw [same.updater]
    refine served.updaters _ _ file ?_
    unfold OpenedFile.Writable at writable ⊢
    rwa [flagged, same.cursors] at writable
  | flushStores found file _ has =>
    exact keep (updaters_set served rfl (fun _ => by simp [OpenedFile.afterFlush, has]))
      (owned_same served found (files_set file rfl rfl) rfl (lookup_setTask _ _ · _)
        (by rw [after_owns]; exact fun _ owned => owned)) served.calm
  | flushPanics found file _ lacks =>
    obtain ⟨f, present, needed⟩ := served.flushes.needed t _ (mutexOf_task found)
    rw [file] at present
    cases present
    have has := served.updaters _ _ file (Or.inl needed)
    rw [lacks] at has
    cases has
  | close found described opened =>
    apply keep served.updaters _ served.calm
    intro other g present
    exact owned_close served found opened other g present
  | tablePanics described closed =>
    obtain ⟨handle, opened⟩ := served.table.described _ _ described
    rw [closed] at opened
    cases opened
  | removeCursor found _ file =>
    have before := served.updaters _ _ file
    refine keep (updaters_set served rfl ?_) (owned_same served found (files_set file rfl rfl) rfl
      (lookup_setTask _ _ · _) ?_) served.calm
    · rintro (needed | ⟨cursor, member, mode⟩)
      · exact before (Or.inl needed)
      · exact before (Or.inr ⟨cursor, List.mem_of_mem_eraseP member, mode⟩)
    · rw [flushOr_owns, afterClose_owns]
      exact fun _ owned => owned
  | destroy found sole file =>
    refine keep (updaters_destroy served) (owned_destroy served found ?_) served.calm
    intro other owned differs
    exact absurd (List.mem_singleton.mp owned) differs
  | closeAll found all =>
    refine keep served.updaters ?_ served.calm
    intro handle f present
    right
    rcases served.owned handle f present with listed | ⟨t', owned⟩
    · refine ⟨t, ?_⟩
      rw [lookup_setTask, if_pos rfl]
      exact List.mem_toFinset.mp (all ▸ mem_values.mpr ⟨_, listed⟩)
    · refine ⟨t', ?_⟩
      rw [lookup_setTask]
      split
      · rename_i here
        rw [here, found] at owned
        cases owned
      · exact owned
  | closeAllDestroy found sole _ file =>
    refine keep (updaters_destroy served) (owned_destroy served found ?_) served.calm
    intro other owned differs
    exact (List.mem_cons.mp owned).resolve_left differs
  | stop => exact keep served.updaters served.owned served.calm
  | lockFile found | openAborts found | lockEntry _ found | inbound found | storeUpdate found
  | release found | updateFails found | reshapeEntry found | sendBlock found | promoteBlock found
  | acknowledge found =>
    exact keep served.updaters (owned_same served found (files_same rfl) rfl (lookup_setTask _ _ · _)
      (by simp [ownedBy, Task.owns])) served.calm

end Steps
end ParsecCloud

import ParsecCloud.Lib.Journal
import ParsecCloud.Lib.Runs
import ParsecCloud.Transactions.OutboundSync
import ParsecCloud.Workspace.UploadRuns

/- The runs of outbound syncs among other operations on an entry: an upload is only acknowledged when
   nothing was stored since the manifest it was made of, and leaves what is seen of the entry. -/
namespace ParsecCloud
open Rust Runs Journal HashMap LocalFolderManifest

section Locks
variable {locks locks' : UpdateLocks} {id : VlobID} {guard : ManifestUpdateLockGuard} {event : Nat}

theorem held_of_taken (taken : locks.take id = (.taken guard, locks')) :
    id ∉ locks.held ∧ id ∈ locks'.held := by
  by_cases busy : id ∈ locks.held
  · obtain ⟨event, locks₁, waits, -⟩ := UpdateLocks.take_busy busy
    rw [waits] at taken
    cases taken
  · obtain ⟨locks₁, takes, -, held, -⟩ := UpdateLocks.take_free busy
    rw [takes] at taken
    cases taken
    exact ⟨busy, by rw [held]; exact Finset.mem_insert_self _ _⟩

theorem held_of_tryTaken (taken : locks.tryTake id = (some guard, locks')) :
    id ∉ locks.held ∧ id ∈ locks'.held ∧ guard = ⟨id⟩ := by
  by_cases busy : id ∈ locks.held
  · obtain ⟨event, locks₁, -, misses, -⟩ := UpdateLocks.take_busy busy
    rw [misses] at taken
    cases taken
  · obtain ⟨locks₁, -, takes, held, -⟩ := UpdateLocks.take_free busy
    rw [takes] at taken
    cases taken
    exact ⟨busy, by rw [held]; exact Finset.mem_insert_self _ _, rfl⟩

theorem held_of_needWait (waits : locks.take id = (.needWait event, locks')) :
    locks'.held = locks.held := by
  by_cases busy : id ∈ locks.held
  · obtain ⟨event, locks₁, again, -, held, -⟩ := UpdateLocks.take_busy busy
    rw [again] at waits
    cases waits
    exact held
  · obtain ⟨locks₁, takes, -⟩ := UpdateLocks.take_free busy
    rw [takes] at waits
    cases waits

theorem same_of_tryMissed (misses : locks.tryTake id = (none, locks')) : locks' = locks := by
  by_cases busy : id ∈ locks.held
  · obtain ⟨event, locks₁, -, again, -⟩ := UpdateLocks.take_busy busy
    rw [again] at misses
    cases misses
    rfl
  · obtain ⟨locks₁, -, takes, -⟩ := UpdateLocks.take_free busy
    rw [takes] at misses
    cases misses

end Locks

/-- What is seen of the entry is the same: its parent, and the content of a file, whatever its chunks
    hold, or the children of a folder. -/
def SeenSame : LocalChildManifest → LocalChildManifest → Prop
  | .file old, .file new => new.parent = old.parent ∧ new.size = old.size ∧
      new.blocksize = old.blocksize ∧ new.blocks = old.blocks
  | .folder old, .folder new => new.parent = old.parent ∧ new.children = old.children
  | _, _ => False

/-- A folder lists each id once, and the base entries it hides stay hidden or confined. -/
def LocalChildManifest.EntriesStay (pattern : PreventSyncPattern) : LocalChildManifest → Prop
  | file _ => True
  | folder m => Injective m.children ∧ Injective m.base.children ∧ HiddenStays pattern m

/-- What has happened since the task took this manifest as the one it works on. -/
def Since (t : Nat) (localManifest : ArcLocalChildManifest)
    (events between : List (Nat × OutboundEvent)) : Prop :=
  ∃ earlier, events = earlier ++ (t, .snapshot localManifest) :: between ∧
    ∀ other, (t, .snapshot other) ∉ between

def StoredIn (events : List (Nat × OutboundEvent)) : Prop := ∃ event ∈ events, event.2.Stores

/-- The upload was made of the manifest that is replaced, in the cache and in the storage, and was
    accepted; nothing else was stored since that manifest was read. What is seen of the entry is left
    as it is, unless a folder has entries that do not stay. -/
def Acknowledges (context : OutboundContext) (before : List (Nat × OutboundEvent)) :
    Nat × OutboundEvent → Prop
  | (t, .acknowledged seen replaced manifest) =>
    ∃ (upload : ManifestUpload) (between : List (Nat × OutboundEvent)),
      Since t upload.localManifest before between ∧ ¬ StoredIn between ∧
      upload.IsToRemote context ∧ (t, .accepted upload.remote) ∈ between ∧
      seen = some upload.localManifest ∧ replaced = some upload.localManifest.manifest ∧
      (upload.localManifest.manifest.EntriesStay context.preventSyncPattern →
        SeenSame upload.localManifest.manifest manifest)
  | _ => True

/-- The sync has given up, and has replaced nothing. -/
structure GivesUp (s : OutboundSystem) (t : Nat) (s' : OutboundSystem) : Prop where
  outcome : s'.tasks t = .sync (.finished (.ok .entryIsBusy))
  cached : s'.cached = s.cached
  stored : s'.stored = s.stored

/-- No acknowledgment overwrites a manifest that was not uploaded, and a sync whose entry was stored
    since it took its manifest ends up busy. -/
structure NeverOverwrites (context : OutboundContext) (s : OutboundSystem)
    (events : List (Nat × OutboundEvent)) : Prop where
  acknowledged : Admitted (Acknowledges context) events
  busy : ∀ t upload between, s.tasks t = .sync (.acknowledging upload) →
    Since t upload.localManifest events between → StoredIn between →
    (∃ event s', OutboundStep context s (t, event) s') ∧
      ∀ event s', OutboundStep context s (t, event) s' → GivesUp s t s'

/-- The operations that were under way before are over, and what is read has passed its checks. -/
structure OutboundSystem.Starts (s : OutboundSystem) : Prop where
  idle : ∀ t, s.tasks t = .idle
  free : s.entryId ∉ s.locks.held
  dumps : ∀ manifest, s.cached = some manifest → manifest.manifest.Dumps

def OutboundSystem.CacheShows (s : OutboundSystem) : Prop :=
  ∀ manifest, s.cached = some manifest → s.stored = some manifest.manifest

section History
variable {t t' : Nat} {l l' : ArcLocalChildManifest} {events between : List (Nat × OutboundEvent)}
variable {event : OutboundEvent}

theorem Since.first (l : ArcLocalChildManifest) (t : Nat) (events : List (Nat × OutboundEvent)) :
    Since t l (events ++ [(t, .snapshot l)]) [] :=
  ⟨events, rfl, by simp⟩

theorem Since.concat (since : Since t l events between)
    (other : ∀ l', (t', event) ≠ (t, .snapshot l')) :
    Since t l (events ++ [(t', event)]) (between ++ [(t', event)]) := by
  obtain ⟨earlier, rfl, alone⟩ := since
  refine ⟨earlier, by simp, ?_⟩
  intro l' member
  rcases List.mem_append.mp member with before | last
  · exact alone l' before
  · exact other l' (List.mem_singleton.mp last).symm

theorem Since.unique {between' : List (Nat × OutboundEvent)} (first : Since t l events between)
    (second : Since t l' events between') : l = l' ∧ between = between' := by
  obtain ⟨earlier, rfl, alone⟩ := first
  obtain ⟨earlier', same, alone'⟩ := second
  rcases List.append_eq_append_iff.mp same with ⟨mid, -, rest⟩ | ⟨mid, -, rest⟩
  · cases mid with
    | nil =>
      cases rest
      exact ⟨rfl, rfl⟩
    | cons _ mid =>
      obtain ⟨-, tail⟩ := List.cons.inj rest
      exact absurd (by simp [tail]) (alone l')
  · cases mid with
    | nil =>
      cases rest
      exact ⟨rfl, rfl⟩
    | cons _ mid =>
      obtain ⟨-, tail⟩ := List.cons.inj rest
      exact absurd (by simp [tail]) (alone' l)

theorem storedIn_concat : StoredIn (between ++ [(t', event)]) ↔ StoredIn between ∨ event.Stores := by
  simp [StoredIn, or_and_right, exists_or]

end History

section Effects
variable {context : OutboundContext} {s s' : OutboundSystem} {t : Nat} {event : OutboundEvent}

@[simp] theorem setTask_same (s : OutboundSystem) (t : Nat) (task : OutboundTask) :
    (s.setTask t task).tasks t = task := by
  simp [OutboundSystem.setTask]

theorem setTask_other (s : OutboundSystem) {t t' : Nat} (task : OutboundTask) (other : t' ≠ t) :
    (s.setTask t task).tasks t' = s.tasks t' := by
  simp [OutboundSystem.setTask, other]

theorem OutboundStep.others (step : OutboundStep context s (t, event) s') :
    s'.entryId = s.entryId ∧ ∀ t' ≠ t, s'.tasks t' = s.tasks t' := by
  cases step with
  | wait => exact ⟨rfl, fun _ _ => rfl⟩
  | populate => exact ⟨rfl, fun _ _ => rfl⟩
  | _ => exact ⟨rfl, fun _ other => setTask_other _ _ other⟩

theorem moves_unlocked {storage storage' : UploadStorage} {phase phase' : OutboundPhase}
    (moves : phase.Moves context storage event storage' phase') :
    (OutboundTask.sync phase).locks = false ∧ (OutboundTask.sync phase').locks = false := by
  cases moves with
  | failed error awaits =>
    refine ⟨?_, rfl⟩
    cases phase with
    | retrieved | reshaping | uploadingBlocks | uploadingManifest => rfl
    | _ => cases awaits
  | _ => exact ⟨rfl, rfl⟩

/-- Only the holder of the update lock has stored a manifest that is not in the cache yet. -/
theorem locks_of_pending {task : OutboundTask} {manifest : ArcLocalChildManifest}
    (pending : task.pending = some manifest) : task.locks = true := by
  cases task with
  | idle => cases pending
  | updating _ => rfl
  | sync phase =>
    cases phase with
    | reshapeStored _ => rfl
    | acknowledgeStored _ => rfl
    | _ => cases pending

theorem relocked_cases {phase phase' : OutboundPhase} {cached : Option ArcLocalChildManifest}
    (relocked : phase.relocked cached = some phase') :
    (∃ original update, phase = .reshaped original update ∧
      phase' = .reshapeLocked original update) ∨
    ∃ upload, phase = .acknowledging upload ∧ phase' = .acknowledgeLocked upload ∧
      cached = some upload.localManifest := by
  unfold OutboundPhase.relocked at relocked
  split at relocked
  · split at relocked
    · split at relocked
      · cases relocked
      · cases relocked
        exact Or.inl ⟨_, _, rfl, rfl⟩
    · cases relocked
  · rename_i original remote
    split at relocked
    · rename_i refreshed
      split at relocked
      · cases relocked
      · rename_i same
        cases relocked
        refine Or.inr ⟨_, rfl, rfl, ?_⟩
        obtain ⟨pointer, value⟩ := original
        obtain ⟨pointer', value'⟩ := refreshed
        simp only [fileHasChanged, Bool.or_eq_true, bne_iff_ne, not_or, not_not] at same
        rw [ManifestUpload.localManifest, same.1, same.2]
    · cases relocked
  · rename_i original remote timestamp
    split at relocked
    · rename_i refreshed
      split at relocked
      · cases relocked
      · rename_i same
        cases relocked
        refine Or.inr ⟨_, rfl, rfl, ?_⟩
        obtain ⟨pointer, value⟩ := original
        obtain ⟨pointer', value'⟩ := refreshed
        simp only [folderHasChanged, Bool.or_eq_true, bne_iff_ne, not_or, not_not] at same
        rw [ManifestUpload.localManifest, same.1, same.2]
    · cases relocked
  · cases relocked

/-- What a step does to the update lock. -/
inductive Locking (s : OutboundSystem) (t : Nat) (s' : OutboundSystem) : Prop where
  | kept (old : (s'.tasks t).locks = true → (s.tasks t).locks = true)
      (held : s.entryId ∈ s.locks.held → s.entryId ∈ s'.locks.held)
  | took (free : s.entryId ∉ s.locks.held) (held : s.entryId ∈ s'.locks.held)
  | released (old : (s.tasks t).locks = true) (new : (s'.tasks t).locks = false)

theorem OutboundStep.locking (step : OutboundStep context s (t, event) s') : Locking s t s' := by
  cases step with
  | retrieve idle taken found =>
    obtain ⟨free, held⟩ := held_of_taken taken
    exact .took free held
  | retrieveBusy idle waits =>
    refine .kept (by simp [OutboundTask.locks]) ?_
    exact fun before => (held_of_needWait waits).symm ▸ before
  | retrieveFailed error idle => exact .kept (by simp [OutboundTask.locks]) id
  | @retrieved _ entry locks isRetrieving release =>
    refine .released (by rw [isRetrieving]; rfl) ?_
    rw [setTask_same]
    cases entry with
    | ok localManifest => rfl
    | error outcome => rfl
  | move isSync moves =>
    refine .kept ?_ id
    rw [setTask_same, (moves_unlocked moves).2]
    exact fun locked => absurd locked Bool.false_ne_true
  | relock isSync taken relocked =>
    obtain ⟨free, held, -⟩ := held_of_tryTaken taken
    exact .took free held
  | relockChanged isSync relocks taken changed release =>
    exact .kept (by simp [OutboundTask.locks]) fun held => absurd held (held_of_tryTaken taken).1
  | relockBusy isSync relocks misses =>
    refine .kept (by simp [OutboundTask.locks]) fun held => ?_
    exact (same_of_tryMissed misses).symm ▸ held
  | relockFailed error isSync relocks absent taken release =>
    exact .kept (by simp [OutboundTask.locks]) fun held => absurd held (held_of_tryTaken taken).1
  | storeReshaped isSync dumps fresh => exact .kept (fun _ => by rw [isSync]; rfl) id
  | storeAcknowledged isSync made dumps fresh => exact .kept (fun _ => by rw [isSync]; rfl) id
  | @storeFailed _ phase locks failure isSync holds release =>
    refine .released ?_ (by simp [OutboundTask.locks])
    rw [isSync]
    cases phase with
    | reshapeLocked | acknowledgeLocked => rfl
    | _ => cases holds
  | cacheReshaped isSync release =>
    exact .released (by rw [isSync]; rfl) (by simp [OutboundTask.locks])
  | cacheAcknowledged isSync release =>
    exact .released (by rw [isSync]; rfl) (by simp [OutboundTask.locks])
  | lock idle taken =>
    obtain ⟨free, held⟩ := held_of_taken taken
    exact .took free held
  | wait idle waits => exact .kept id fun held => (held_of_needWait waits).symm ▸ held
  | update manifest storage isUpdating same dumps fresh =>
    exact .kept (fun _ => by rw [isUpdating]; rfl) id
  | updated isUpdating => exact .kept (fun _ => by rw [isUpdating]; rfl) id
  | unlock isUpdating release =>
    exact .released (by rw [isUpdating]; rfl) (by simp [OutboundTask.locks])
  | populate manifest absent readable dumps fresh => exact .kept id id

/-- What a step does to the manifest of the entry: nothing, or it is written to the storage, or put in
    the cache by the one who has written it, or read. -/
inductive Effect (s : OutboundSystem) (t : Nat) (event : OutboundEvent) (s' : OutboundSystem) : Prop where
  | quiet (cached : s'.cached = s.cached) (stored : s'.stored = s.stored)
      (pending : (s'.tasks t).pending = (s.tasks t).pending) (silent : ¬ event.Stores)
  | wrote (manifest : ArcLocalChildManifest) (locked : (s.tasks t).locks = true)
      (nothing : (s.tasks t).pending = none) (fresh : ¬ s.Live manifest.pointer)
      (dumps : manifest.manifest.Dumps) (cached : s'.cached = s.cached)
      (stored : s'.stored = some manifest.manifest) (pending : (s'.tasks t).pending = some manifest)
  | inserted (manifest : ArcLocalChildManifest) (pending : (s.tasks t).pending = some manifest)
      (cached : s'.cached = some manifest) (stored : s'.stored = s.stored)
      (nothing : (s'.tasks t).pending = none) (silent : ¬ event.Stores)
  | populated (manifest : ArcLocalChildManifest) (absent : s.cached = none)
      (readable : s.stored = none ∨ s.stored = some manifest.manifest)
      (fresh : ¬ s.Live manifest.pointer) (dumps : manifest.manifest.Dumps)
      (cached : s'.cached = some manifest) (stored : s'.stored = some manifest.manifest)
      (tasks : s'.tasks = s.tasks) (silent : ¬ event.Stores)

theorem moves_quiet {storage storage' : UploadStorage} {phase phase' : OutboundPhase}
    (moves : phase.Moves context storage event storage' phase') :
    (OutboundTask.sync phase).pending = none ∧ (OutboundTask.sync phase').pending = none ∧
      ¬ event.Stores := by
  cases moves with
  | failed error awaits =>
    refine ⟨?_, rfl, id⟩
    cases phase with
    | retrieved | reshaping | uploadingBlocks | uploadingManifest => rfl
    | _ => cases awaits
  | _ => exact ⟨rfl, rfl, id⟩

theorem pending_of_relocks {phase : OutboundPhase} (relocks : phase.relocks = true) :
    (OutboundTask.sync phase).pending = none := by
  cases phase with
  | reshaped | acknowledging => rfl
  | _ => cases relocks

theorem OutboundStep.effect (step : OutboundStep context s (t, event) s') : Effect s t event s' := by
  cases step with
  | @retrieve _ guard locks _ entry idle taken found =>
    refine .quiet rfl rfl ?_ ?_
    · rw [setTask_same, idle]
      cases entry with
      | ok localManifest => rfl
      | error outcome => rfl
    · cases found with
      | _ => exact id
  | retrieveBusy idle waits => exact .quiet rfl rfl (by rw [setTask_same, idle]; rfl) id
  | retrieveFailed error idle => exact .quiet rfl rfl (by rw [setTask_same, idle]; rfl) id
  | @retrieved _ entry locks isRetrieving release =>
    refine .quiet rfl rfl ?_ id
    rw [setTask_same, isRetrieving]
    cases entry with
    | ok localManifest => rfl
    | error outcome => rfl
  | move isSync moves =>
    obtain ⟨before, after, silent⟩ := moves_quiet moves
    exact .quiet rfl rfl (by rw [setTask_same, isSync, before, after]) silent
  | relock isSync taken relocked =>
    refine .quiet rfl rfl ?_ id
    rw [setTask_same, isSync]
    rcases relocked_cases relocked with ⟨original, update, rfl, rfl⟩ | ⟨upload, rfl, rfl, -⟩
    · rfl
    · rfl
  | @relockChanged _ phase guard locks locks' isSync relocks taken changed release =>
    exact .quiet rfl rfl (by rw [setTask_same, isSync, pending_of_relocks relocks]; rfl) id
  | relockBusy isSync relocks misses =>
    exact .quiet rfl rfl (by rw [setTask_same, isSync, pending_of_relocks relocks]; rfl) id
  | relockFailed error isSync relocks absent taken release =>
    exact .quiet rfl rfl (by rw [setTask_same, isSync, pending_of_relocks relocks]; rfl) id
  | @storeReshaped _ original update pointer isSync dumps fresh =>
    exact .wrote (.file ⟨pointer, update.manifest⟩) (by rw [isSync]; rfl) (by rw [isSync]; rfl) fresh
      dumps rfl rfl (by rw [setTask_same]; rfl)
  | @storeAcknowledged _ upload orders manifest pointer isSync made dumps fresh =>
    exact .wrote (.new pointer manifest) (by rw [isSync]; rfl) (by rw [isSync]; rfl)
      (by simpa using fresh) (by simpa using dumps) rfl (by simp [OutboundSystem.setTask])
      (by rw [setTask_same]; rfl)
  | @storeFailed _ phase locks failure isSync holds release =>
    refine .quiet rfl rfl ?_ id
    rw [setTask_same, isSync]
    cases phase with
    | reshapeLocked | acknowledgeLocked => rfl
    | _ => cases holds
  | @cacheReshaped _ manifest locks isSync release =>
    exact .inserted (.file manifest) (by rw [isSync]; rfl) rfl rfl (by rw [setTask_same]; rfl) id
  | @cacheAcknowledged _ manifest locks isSync release =>
    exact .inserted manifest (by rw [isSync]; rfl) rfl rfl (by rw [setTask_same]; rfl) id
  | lock idle taken => exact .quiet rfl rfl (by rw [setTask_same, idle]; rfl) id
  | wait idle waits => exact .quiet rfl rfl rfl id
  | @update _ pointer manifest storage isUpdating same dumps fresh =>
    exact .wrote (.new pointer manifest) (by rw [isUpdating]; rfl) (by rw [isUpdating]; rfl)
      (by simpa using fresh) (by simpa using dumps) rfl (by simp [OutboundSystem.setTask])
      (by rw [setTask_same]; rfl)
  | @updated _ manifest isUpdating =>
    exact .inserted manifest (by rw [isUpdating]; rfl) rfl rfl (by rw [setTask_same]; rfl) id
  | unlock isUpdating release => exact .quiet rfl rfl (by rw [setTask_same, isUpdating]; rfl) id
  | @populate _ pointer manifest absent readable dumps fresh =>
    exact .populated (.new pointer manifest) absent (by simpa using readable) (by simpa using fresh)
      (by simpa using dumps) rfl (by simp) rfl id

/-- What holds of the entry in every state: one holder of the lock at most, and only what it has just
    written is in the storage and not in the cache. -/
structure EntrySound (s : OutboundSystem) : Prop where
  exclusive : ∀ t t', (s.tasks t).locks = true → (s.tasks t').locks = true → t = t'
  held : ∀ t, (s.tasks t).locks = true → s.entryId ∈ s.locks.held
  written : ∀ t manifest, (s.tasks t).pending = some manifest →
    s.stored = some manifest.manifest ∧ manifest.manifest.Dumps
  shown : ∀ manifest, s.cached = some manifest →
    s.stored = some manifest.manifest ∨ ∃ t, (s.tasks t).pending ≠ none
  dumps : ∀ manifest, s.cached = some manifest → manifest.manifest.Dumps

theorem OutboundSystem.Starts.sound (starts : s.Starts) (shows : s.CacheShows) : EntrySound s := by
  have unlocked : ∀ t, (s.tasks t).locks = false := fun t => by rw [starts.idle]; rfl
  have nothing : ∀ t, (s.tasks t).pending = none := fun t => by rw [starts.idle]; rfl
  refine ⟨?_, ?_, ?_, fun manifest cached => Or.inl (shows manifest cached), starts.dumps⟩
  · intro t t' locked
    rw [unlocked] at locked
    cases locked
  · intro t locked
    rw [unlocked] at locked
    cases locked
  · intro t manifest pending
    rw [nothing] at pending
    cases pending

section Sound
variable (sound : EntrySound s)
include sound

theorem EntrySound.alone (locked : (s.tasks t).locks = true) {t' : Nat} (other : t' ≠ t) :
    (s.tasks t').pending = none := by
  cases pending : (s.tasks t').pending with
  | none => rfl
  | some manifest =>
    exact absurd (sound.exclusive t' t (locks_of_pending pending) locked) other

theorem EntrySound.holders (step : OutboundStep context s (t, event) s') :
    ((∀ i, (s'.tasks i).locks = true → (s.tasks i).locks = true) ∧
      (s.entryId ∈ s.locks.held → s.entryId ∈ s'.locks.held)) ∨
    ∀ i, (s'.tasks i).locks = true → i = t ∧ s.entryId ∈ s'.locks.held := by
  have others := step.others.2
  cases step.locking with
  | kept old held =>
    refine Or.inl ⟨?_, held⟩
    intro i locked
    by_cases same : i = t
    · rw [same] at locked ⊢
      exact old locked
    · rwa [others i same] at locked
  | took free held =>
    right
    intro i locked
    by_cases same : i = t
    · exact ⟨same, held⟩
    · rw [others i same] at locked
      exact absurd (sound.held i locked) free
  | released old new =>
    right
    intro i locked
    by_cases same : i = t
    · rw [same, new] at locked
      cases locked
    · rw [others i same] at locked
      exact absurd (sound.exclusive i t locked old) same

theorem EntrySound.step (step : OutboundStep context s (t, event) s') : EntrySound s' := by
  obtain ⟨sameId, others⟩ := step.others
  have locks : (∀ i j, (s'.tasks i).locks = true → (s'.tasks j).locks = true → i = j) ∧
      ∀ i, (s'.tasks i).locks = true → s'.entryId ∈ s'.locks.held := by
    rw [sameId]
    rcases sound.holders step with ⟨before, held⟩ | alone
    · exact ⟨fun i j first second => sound.exclusive i j (before i first) (before j second),
        fun i locked => held (sound.held i (before i locked))⟩
    · exact ⟨fun i j first second => (alone i first).1.trans (alone j second).1.symm,
        fun i locked => (alone i locked).2⟩
  refine ⟨locks.1, locks.2, ?_, ?_, ?_⟩
  · intro i manifest pending
    cases step.effect with
    | quiet cached stored same silent =>
      rw [stored]
      apply sound.written i manifest
      by_cases here : i = t
      · rw [here] at pending ⊢
        rw [← same]
        exact pending
      · rwa [others i here] at pending
    | wrote new locked nothing fresh dumps cached stored now =>
      by_cases here : i = t
      · rw [here, now] at pending
        cases pending
        exact ⟨stored, dumps⟩
      · rw [others i here, sound.alone locked here] at pending
        cases pending
    | inserted new old cached stored nothing silent =>
      by_cases here : i = t
      · rw [here, nothing] at pending
        cases pending
      · rw [others i here, sound.alone (locks_of_pending old) here] at pending
        cases pending
    | populated new absent readable fresh dumps cached stored tasks silent =>
      rw [tasks] at pending
      obtain ⟨before, checked⟩ := sound.written i manifest pending
      rcases readable with nothing | same
      · rw [nothing] at before
        cases before
      · exact ⟨by rw [stored, ← same, before], checked⟩
  · intro manifest shown
    cases step.effect with
    | quiet cached stored same silent =>
      rw [cached] at shown
      rw [stored]
      refine (sound.shown manifest shown).imp_right ?_
      rintro ⟨i, pending⟩
      refine ⟨i, ?_⟩
      by_cases here : i = t
      · rw [here] at pending ⊢
        rwa [same]
      · rwa [others i here]
    | wrote new locked nothing fresh dumps cached stored now =>
      exact Or.inr ⟨t, by simp [now]⟩
    | inserted new old cached stored nothing silent =>
      rw [cached] at shown
      cases shown
      exact Or.inl (by rw [stored, (sound.written t manifest old).1])
    | populated new absent readable fresh dumps cached stored tasks silent =>
      rw [cached] at shown
      cases shown
      exact Or.inl stored
  · intro manifest shown
    cases step.effect with
    | quiet cached stored same silent =>
      rw [cached] at shown
      exact sound.dumps manifest shown
    | wrote new locked nothing fresh dumps cached stored now =>
      rw [cached] at shown
      exact sound.dumps manifest shown
    | inserted new old cached stored nothing silent =>
      rw [cached] at shown
      cases shown
      exact (sound.written t manifest old).2
    | populated new absent readable fresh dumps cached stored tasks silent =>
      rw [cached] at shown
      cases shown
      exact dumps

end Sound

/-- Something else than this manifest is in the cache, or about to be. -/
def OutboundSystem.Moved (s : OutboundSystem) (l : ArcLocalChildManifest) : Prop :=
  (∃ manifest, s.cached = some manifest ∧ manifest.pointer ≠ l.pointer) ∨
    ∃ t, (s.tasks t).pending ≠ none

/-- What a task knows of the manifest it has taken: no other one is at its address, and when one was
    stored since, the manifest is not in the cache any more. -/
structure Snapshotted (s : OutboundSystem) (events : List (Nat × OutboundEvent)) (t : Nat)
    (l : ArcLocalChildManifest) (between : List (Nat × OutboundEvent)) : Prop where
  since : Since t l events between
  cached : s.cached ≠ none
  dumps : l.manifest.Dumps
  apart : ∀ t' manifest, (s.tasks t').pending = some manifest → manifest.pointer ≠ l.pointer
  moved : StoredIn between → s.Moved l

section Snapshot
variable {events between : List (Nat × OutboundEvent)} {l : ArcLocalChildManifest} {t' : Nat}

theorem live_of_snapshot (snapshot : (s.tasks t').snapshot = some l) : s.Live l.pointer :=
  Or.inr ⟨t', l, Or.inr snapshot, rfl⟩

theorem Snapshotted.step (step : OutboundStep context s (t, event) s')
    (snapshot : (s.tasks t').snapshot = some l) (taken : Snapshotted s events t' l between)
    (other : ∀ l', (t, event) ≠ (t', .snapshot l')) :
    Snapshotted s' (events ++ [(t, event)]) t' l (between ++ [(t, event)]) := by
  have others := step.others.2
  refine ⟨taken.since.concat other, ?_, taken.dumps, ?_, ?_⟩
  · cases step.effect with
    | quiet cached stored same silent => exact cached ▸ taken.cached
    | wrote new locked nothing fresh dumps cached stored now => exact cached ▸ taken.cached
    | inserted new old cached stored nothing silent => simp [cached]
    | populated new absent readable fresh dumps cached stored tasks silent => simp [cached]
  · intro i manifest pending
    by_cases here : i = t
    · rw [here] at pending
      cases step.effect with
      | quiet cached stored same silent => exact taken.apart t manifest (same ▸ pending)
      | wrote new locked nothing fresh dumps cached stored now =>
        rw [now] at pending
        cases pending
        exact fun same => fresh (same ▸ live_of_snapshot snapshot)
      | inserted new old cached stored nothing silent =>
        rw [nothing] at pending
        cases pending
      | populated new absent readable fresh dumps cached stored tasks silent =>
        exact taken.apart t manifest (tasks ▸ pending)
    · rw [others i here] at pending
      exact taken.apart i manifest pending
  · intro isStored
    cases step.effect with
    | quiet cached stored same silent =>
      have before := taken.moved ((storedIn_concat.mp isStored).resolve_right silent)
      rw [OutboundSystem.Moved, cached]
      refine before.imp_right ?_
      rintro ⟨i, pending⟩
      refine ⟨i, ?_⟩
      by_cases here : i = t
      · rw [here] at pending ⊢
        rwa [same]
      · rwa [others i here]
    | wrote new locked nothing fresh dumps cached stored now =>
      exact Or.inr ⟨t, by simp [now]⟩
    | inserted new old cached stored nothing silent =>
      exact Or.inl ⟨new, cached, taken.apart t new old⟩
    | populated new absent readable fresh dumps cached stored tasks silent =>
      exact absurd absent taken.cached

end Snapshot
end Effects

section Uploads
variable {context : OutboundContext}

/-- A file that is uploaded is made of whole blocks. -/
def ManifestUpload.Whole : ManifestUpload → Prop
  | file localManifest _ => WholeBlocks localManifest.value.blocks
  | folder _ _ _ => True

@[simp] theorem localManifest_updateTimestamp (timestamp : DateTime) (upload : ManifestUpload) :
    (upload.updateTimestamp timestamp).localManifest = upload.localManifest := by
  cases upload with
  | file _ _ => rfl
  | folder _ _ _ => rfl

theorem isToRemote_updateTimestamp (timestamp : DateTime) {upload : ManifestUpload}
    (isToRemote : upload.IsToRemote context) :
    (upload.updateTimestamp timestamp).IsToRemote context := by
  cases upload with
  | file localManifest remote =>
    obtain ⟨made, original, uploads, same⟩ := isToRemote
    refine ⟨made, original, uploads, ?_⟩
    rw [same]
  | folder localManifest remote made =>
    obtain ⟨orders, same⟩ := isToRemote
    refine ⟨orders, ?_⟩
    rw [same]

theorem whole_updateTimestamp (timestamp : DateTime) {upload : ManifestUpload}
    (whole : upload.Whole) : (upload.updateTimestamp timestamp).Whole := by
  cases upload with
  | file _ _ => exact whole
  | folder _ _ _ => trivial

theorem whole_of_checked {m : LocalFileManifest} (all : ∀ views ∈ m.blocks, NoReshape views)
    (checked : ∀ views ∈ m.blocks, SanityChecked views) : WholeBlocks m.blocks := by
  intro views member
  obtain ⟨access, same, -⟩ :=
    accessView_of_settled (uploadable_of_checked checked all) member (all views member)
  exact Or.inr ⟨access, same⟩

/-- What comes back from the upload of a manifest is seen as the manifest is, when the entries of a
    folder stay. -/
theorem seenSame_of_upload {upload : ManifestUpload} {orders : FolderOrders}
    {manifest : LocalChildManifest} (isToRemote : upload.IsToRemote context)
    (whole : upload.Whole) (dumps : upload.localManifest.manifest.Dumps)
    (stay : upload.localManifest.manifest.EntriesStay context.preventSyncPattern)
    (made : upload.localFromRemote context orders = .ok manifest) :
    SeenSame upload.localManifest.manifest manifest := by
  cases upload with
  | file localManifest remote =>
    obtain ⟨timestamp, original, uploads, same⟩ := isToRemote
    rw [toRemote_eq dumps whole] at uploads
    cases uploads
    have dated : remote = remoteOf localManifest.value context.deviceId remote.timestamp
        (localManifest.value.base.version + 1) := same
    obtain ⟨back, isBack, blocks, size, blocksize, parent, -⟩ :=
      fromRemote_remoteOf dumps whole context.deviceId remote.timestamp
        (localManifest.value.base.version + 1)
    obtain ⟨read, isRead, done⟩ := bind_eq_ok.mp made
    rw [dated, isBack] at isRead
    cases isRead
    cases done
    exact ⟨parent, size, blocksize, blocks⟩
  | folder localManifest remote timestamp =>
    obtain ⟨uploadOrders, same⟩ := isToRemote
    obtain ⟨children, base, stays⟩ := stay
    have uploaded : remote.children = (UnconfinedLocalFolderManifest.removeConfinement uploadOrders
        localManifest.value).children := by rw [same]; rfl
    obtain ⟨back, data, isBack, restoration, change⟩ :=
      acknowledge_spec uploaded children base orders context.preventSyncPattern timestamp
    obtain ⟨read, isRead, done⟩ := bind_eq_ok.mp made
    rw [isBack] at isRead
    cases isRead
    cases done
    refine ⟨?_, children_of_hiddenStays uploaded restoration change stays children⟩
    rw [change.parent]
    change remote.parent = localManifest.value.parent
    rw [same]
    rfl

end Uploads

/-- What a sync knows in each phase: the slots it has checked, what its upload is made of, that the
    server has it and, with the lock taken again, that nothing was stored. -/
def SyncFacts (context : OutboundContext) (cached : Option ArcLocalChildManifest) (t : Nat)
    (between : List (Nat × OutboundEvent)) : OutboundTask → Prop
  | .sync (.uploadingBlocks m blocks) => (∀ views ∈ m.value.blocks, NoReshape views) ∧
      ∃ checked, m.value.blocks = checked ++ blocks ∧ ∀ views ∈ checked, SanityChecked views
  | .sync (.uploadingManifest upload) => upload.IsToRemote context ∧ upload.Whole
  | .sync (.acknowledging upload) => upload.IsToRemote context ∧ upload.Whole ∧
      (t, .accepted upload.remote) ∈ between
  | .sync (.acknowledgeLocked upload) => upload.IsToRemote context ∧ upload.Whole ∧
      (t, .accepted upload.remote) ∈ between ∧ ¬ StoredIn between ∧
      cached = some upload.localManifest
  | _ => True

section Facts
variable {context : OutboundContext} {cached cached' : Option ArcLocalChildManifest} {t : Nat}
variable {between : List (Nat × OutboundEvent)} {storage storage' : UploadStorage}
variable {phase phase' : OutboundPhase} {event : OutboundEvent} {l : ArcLocalChildManifest}

theorem moves_snapshot (moves : phase.Moves context storage event storage' phase')
    (snapshot : (OutboundTask.sync phase').snapshot = some l) :
    (OutboundTask.sync phase).snapshot = some l := by
  cases moves with
  | tryAgain timestamp =>
    rw [OutboundTask.snapshot, localManifest_updateTimestamp] at snapshot
    exact snapshot
  | failed | notNeeded | reshapePanics | blockRefused | blockPanics | toRemotePanics
  | versionConflict => cases snapshot
  | _ => exact snapshot

theorem moves_not_snapshot (moves : phase.Moves context storage event storage' phase') :
    ∀ l', event ≠ .snapshot l' := by
  intro l' same
  cases moves with
  | _ => cases same

theorem moves_facts (moves : phase.Moves context storage event storage' phase')
    (dumps : ∀ l, (OutboundTask.sync phase).snapshot = some l → l.manifest.Dumps)
    (facts : SyncFacts context cached t between (.sync phase)) :
    SyncFacts context cached' t (between ++ [(t, event)]) (.sync phase') := by
  cases moves with
  | syncFolder orders timestamp needed => exact ⟨⟨orders, rfl⟩, trivial⟩
  | @alreadyReshaped m found id none_left =>
    have layout := ((checkDataIntegrity_ok_iff m.value).mp (dumps _ rfl)).2
    rcases doNext_cases layout none_left with ⟨-, all⟩ | ⟨i, operation, buf, update, next, -⟩
    · exact ⟨all, [], rfl, by simp⟩
    · cases next
  | @uploadBlock _ m block rest answer uploads =>
    obtain ⟨all, checked, split, sane⟩ := facts
    refine ⟨all, checked ++ [block], by rw [split]; simp, ?_⟩
    intro views member
    rcases List.mem_append.mp member with before | last
    · exact sane views before
    · rw [List.mem_singleton.mp last]
      exact uploadBlock_checked uploads
  | blocksUploaded uploads =>
    obtain ⟨all, checked, split, sane⟩ := facts
    rw [List.append_nil] at split
    exact ⟨⟨_, _, uploads, rfl⟩, whole_of_checked all (split ▸ sane)⟩
  | tryAgain timestamp =>
    exact ⟨isToRemote_updateTimestamp timestamp facts.1, whole_updateTimestamp timestamp facts.2⟩
  | accepted => exact ⟨facts.1, facts.2, by simp⟩
  | _ => trivial

end Facts

/-- What holds after every step: of the entry, of each sync with the manifest it works on, and of the
    acknowledgments. -/
structure Tracked (context : OutboundContext) (s : OutboundSystem)
    (events : List (Nat × OutboundEvent)) : Prop where
  sound : EntrySound s
  syncs : ∀ t l, (s.tasks t).snapshot = some l → ∃ between, Snapshotted s events t l between ∧
    SyncFacts context s.cached t between (s.tasks t)
  acknowledged : Admitted (Acknowledges context) events

section Tracking
variable {context : OutboundContext} {s s' : OutboundSystem} {t t' : Nat} {event : OutboundEvent}
variable {events between : List (Nat × OutboundEvent)} {l : ArcLocalChildManifest}

/-- A sync that stands still keeps what it knows: while it holds the lock, nobody stores anything. -/
theorem facts_kept (sound : EntrySound s) (step : OutboundStep context s (t, event) s')
    (still : s'.tasks t' = s.tasks t') (taken : Snapshotted s events t' l between)
    (facts : SyncFacts context s.cached t' between (s.tasks t')) :
    SyncFacts context s'.cached t' (between ++ [(t, event)]) (s'.tasks t') := by
  rw [still]
  cases task : s.tasks t' with
  | idle => trivial
  | updating pending => trivial
  | sync phase =>
    rw [task] at facts
    cases phase with
    | uploadingBlocks m blocks => exact facts
    | uploadingManifest upload => exact facts
    | acknowledging upload =>
      exact ⟨facts.1, facts.2.1, List.mem_append_left _ facts.2.2⟩
    | acknowledgeLocked upload =>
      obtain ⟨isToRemote, whole, accepted, unstored, shown⟩ := facts
      have locked : (s.tasks t').locks = true := by rw [task]; rfl
      have nothing : (s.tasks t').pending = none := by rw [task]; rfl
      suffices quiet : s'.cached = s.cached ∧ ¬ event.Stores by
        refine ⟨isToRemote, whole, List.mem_append_left _ accepted, ?_, by rw [quiet.1, shown]⟩
        exact fun stored => (storedIn_concat.mp stored).elim unstored quiet.2
      cases step.effect with
      | quiet cached stored same silent => exact ⟨cached, silent⟩
      | wrote new holder none fresh dumps cached stored now =>
        cases sound.exclusive t t' holder locked
        rw [still, nothing] at now
        cases now
      | inserted new old cached stored none silent =>
        cases sound.exclusive t t' (locks_of_pending old) locked
        rw [nothing] at old
        cases old
      | populated new absent readable fresh dumps cached stored tasks silent =>
        exact absurd absent taken.cached
    | _ => trivial

/-- While the lock is free, the manifest of a sync is moved only when another one is in the cache. -/
theorem EntrySound.cached_of_moved (sound : EntrySound s) (free : s.entryId ∉ s.locks.held)
    (moved : s.Moved l) : ∃ manifest, s.cached = some manifest ∧ manifest.pointer ≠ l.pointer := by
  rcases moved with shown | ⟨i, pending⟩
  · exact shown
  · obtain ⟨manifest, isPending⟩ := Option.ne_none_iff_exists'.mp pending
    exact absurd (sound.held i (locks_of_pending isPending)) free

theorem snapshotted_first (l : ArcLocalChildManifest) (t : Nat)
    (events : List (Nat × OutboundEvent)) (cached : s.cached = some l) (dumps : l.manifest.Dumps)
    (nothing : ∀ i, (s.tasks i).pending = none) :
    Snapshotted s (events ++ [(t, .snapshot l)]) t l [] := by
  refine ⟨Since.first l t events, by simp [cached], dumps, ?_, ?_⟩
  · intro i manifest pending
    rw [nothing] at pending
    cases pending
  · rintro ⟨event, member, -⟩
    cases member

theorem Tracked.own (tracked : Tracked context s events)
    (step : OutboundStep context s (t, event) s') (snapshot : (s'.tasks t).snapshot = some l) :
    ∃ between, Snapshotted s' (events ++ [(t, event)]) t l between ∧
      SyncFacts context s'.cached t between (s'.tasks t) := by
  have sound := tracked.sound
  have kept := fun before between taken other =>
    @Snapshotted.step context s s' t event events between l t step before taken other
  have plain : ∀ l', (t, OutboundEvent.other) ≠ (t, .snapshot l') := fun l' same => by cases same
  have original := step
  cases step with
  | @retrieve _ guard locks _ entry idle taken found =>
    rw [setTask_same] at snapshot
    cases found with
    | @reachable m cached =>
      cases snapshot
      refine ⟨[], snapshotted_first l t events cached (sound.dumps l cached) ?_, by simp [SyncFacts]⟩
      intro i
      by_cases here : i = t
      · rw [here, setTask_same]
        rfl
      · rw [setTask_other _ _ here]
        cases pending : (s.tasks i).pending with
        | none => rfl
        | some manifest =>
          exact absurd (sound.held i (locks_of_pending pending)) (held_of_taken taken).1
    | _ => cases snapshot
  | @retrieved _ entry locks isRetrieving release =>
    rw [setTask_same] at snapshot
    cases entry with
    | error outcome => cases snapshot
    | ok localManifest =>
      have before : (s.tasks t).snapshot = some l := by rw [isRetrieving]; exact snapshot
      obtain ⟨between, taken, -⟩ := tracked.syncs t l before
      exact ⟨_, kept before between taken plain, by rw [setTask_same]; trivial⟩
  | @move _ phase _ storage phase' isSync moves =>
    rw [setTask_same] at snapshot
    have before : (s.tasks t).snapshot = some l := by rw [isSync]; exact moves_snapshot moves snapshot
    obtain ⟨between, taken, facts⟩ := tracked.syncs t l before
    have silent := moves_not_snapshot moves
    refine ⟨_, kept before between taken fun l' same => silent l' (Prod.mk.inj same).2, ?_⟩
    rw [setTask_same]
    rw [isSync] at facts before
    refine moves_facts moves ?_ facts
    intro l' snapshot'
    rw [before] at snapshot'
    cases snapshot'
    exact taken.dumps
  | @relock _ phase phase' guard locks isSync free relocked =>
    rw [setTask_same] at snapshot
    rcases relocked_cases relocked with ⟨manifest, update, rfl, rfl⟩ | ⟨upload, rfl, rfl, shown⟩
    · have before : (s.tasks t).snapshot = some l := by rw [isSync]; exact snapshot
      obtain ⟨between, taken, -⟩ := tracked.syncs t l before
      exact ⟨_, kept before between taken plain, by rw [setTask_same]; trivial⟩
    · have before : (s.tasks t).snapshot = some l := by rw [isSync]; exact snapshot
      obtain ⟨between, taken, facts⟩ := tracked.syncs t l before
      rw [isSync] at facts
      cases snapshot
      refine ⟨_, kept before between taken plain, ?_⟩
      rw [setTask_same]
      refine ⟨facts.1, facts.2.1, List.mem_append_left _ facts.2.2, ?_, shown⟩
      intro stored
      have moved := taken.moved ((storedIn_concat.mp stored).resolve_right id)
      obtain ⟨manifest, cached, other⟩ := sound.cached_of_moved (held_of_tryTaken free).1 moved
      rw [shown] at cached
      cases cached
      exact other rfl
  | @cacheReshaped _ manifest locks isSync release =>
    rw [setTask_same] at snapshot
    cases snapshot
    have pending : (s.tasks t).pending = some (.file manifest) := by rw [isSync]; rfl
    refine ⟨[], snapshotted_first _ t events rfl (sound.written t _ pending).2 ?_,
      by rw [setTask_same]; trivial⟩
    intro i
    by_cases here : i = t
    · rw [here, setTask_same]
      rfl
    · rw [setTask_other _ _ here]
      exact sound.alone (locks_of_pending pending) here
  | wait idle waits =>
    rw [show s.tasks t = .idle from idle] at snapshot
    cases snapshot
  | @populate _ pointer manifest absent readable dumps fresh =>
    obtain ⟨between, taken, facts⟩ := tracked.syncs t l snapshot
    exact absurd absent taken.cached
  | _ =>
    rw [setTask_same] at snapshot
    cases snapshot

theorem Tracked.acknowledges (tracked : Tracked context s events)
    (step : OutboundStep context s (t, event) s') : Acknowledges context events (t, event) := by
  cases step with
  | retrieve idle taken found =>
    cases found with
    | _ => trivial
  | move isSync moves =>
    cases moves with
    | _ => trivial
  | @storeAcknowledged _ upload orders manifest pointer isSync made dumps fresh =>
    have snapshot : (s.tasks t).snapshot = some upload.localManifest := by rw [isSync]; rfl
    have locked : (s.tasks t).locks = true := by rw [isSync]; rfl
    obtain ⟨between, taken, facts⟩ := tracked.syncs t upload.localManifest snapshot
    rw [isSync] at facts
    obtain ⟨isToRemote, whole, accepted, unstored, shown⟩ := facts
    refine ⟨upload, between, taken.since, unstored, isToRemote, accepted, shown, ?_, ?_⟩
    · rcases tracked.sound.shown _ shown with stored | ⟨i, pending⟩
      · exact stored
      · by_cases here : i = t
        · rw [here, isSync] at pending
          exact absurd rfl pending
        · exact absurd (tracked.sound.alone locked here) pending
    · exact fun stay => seenSame_of_upload isToRemote whole taken.dumps stay made
  | _ => trivial

theorem Tracked.step (tracked : Tracked context s events)
    (step : OutboundStep context s (t, event) s') : Tracked context s' (events ++ [(t, event)]) := by
  refine ⟨tracked.sound.step step, ?_,
    admitted_concat.mpr ⟨tracked.acknowledged, tracked.acknowledges step⟩⟩
  intro i l snapshot
  by_cases here : i = t
  · rw [here] at snapshot ⊢
    exact tracked.own step snapshot
  · have still := step.others.2 i here
    rw [still] at snapshot
    obtain ⟨between, taken, facts⟩ := tracked.syncs i l snapshot
    refine ⟨_, taken.step step snapshot ?_,
      facts_kept tracked.sound step still taken facts⟩
    exact fun l' same => here (Prod.mk.inj same).1.symm

theorem OutboundSystem.Starts.tracked (starts : s.Starts) (shows : s.CacheShows) :
    Tracked context s [] := by
  refine ⟨starts.sound shows, ?_, admitted_nil⟩
  intro t l snapshot
  rw [starts.idle] at snapshot
  cases snapshot

/-- A sync that is to acknowledge an upload whose entry was stored since cannot but give up. -/
theorem Tracked.busy (tracked : Tracked context s events) {upload : ManifestUpload}
    (isSync : s.tasks t = .sync (.acknowledging upload))
    (since : Since t upload.localManifest events between) (stored : StoredIn between) :
    (∃ event s', OutboundStep context s (t, event) s') ∧
      ∀ event s', OutboundStep context s (t, event) s' → GivesUp s t s' := by
  have sound := tracked.sound
  have snapshot : (s.tasks t).snapshot = some upload.localManifest := by rw [isSync]; rfl
  obtain ⟨between', taken, -⟩ := tracked.syncs t upload.localManifest snapshot
  have moved := taken.moved ((taken.since.unique since).2 ▸ stored)
  have changed : s.entryId ∉ s.locks.held →
      (OutboundPhase.acknowledging upload).relocked s.cached = none := by
    intro free
    obtain ⟨manifest, cached, other⟩ := sound.cached_of_moved free moved
    cases relocked : (OutboundPhase.acknowledging upload).relocked s.cached with
    | none => rfl
    | some phase' =>
      rcases relocked_cases relocked with ⟨original, update, phase, -⟩ | ⟨again, phase, -, shown⟩
      · cases phase
      · cases phase
        rw [cached] at shown
        cases shown
        exact absurd rfl other
  constructor
  · by_cases held : s.entryId ∈ s.locks.held
    · obtain ⟨event, locks, -, misses, -⟩ := UpdateLocks.take_busy held
      exact ⟨_, _, .relockBusy isSync rfl misses⟩
    · obtain ⟨locks, -, takes, nowHeld, -⟩ := UpdateLocks.take_free held
      have isHeld : s.entryId ∈ locks.held := by rw [nowHeld]; exact Finset.mem_insert_self _ _
      obtain ⟨locks', released, -⟩ :=
        UpdateLocks.release_held (show (⟨s.entryId⟩ : ManifestUpdateLockGuard).entryId ∈ _ from isHeld)
      exact ⟨_, _, .relockChanged isSync rfl takes (changed held) released⟩
  · intro event s' step
    cases step with
    | relockChanged was relocks taken none released => exact ⟨setTask_same _ _ _, rfl, rfl⟩
    | relockBusy was relocks misses => exact ⟨setTask_same _ _ _, rfl, rfl⟩
    | relock was free relocked =>
      rw [isSync] at was
      cases was
      rw [changed (held_of_tryTaken free).1] at relocked
      cases relocked
    | relockFailed error was relocks absent => exact absurd absent taken.cached
    | populate manifest absent => exact absurd absent taken.cached
    | move was moves =>
      rw [isSync] at was
      cases was
      cases moves with
      | failed error awaits => cases awaits
    | storeFailed failure was holds =>
      rw [isSync] at was
      cases was
      cases holds
    | retrieve was | retrieveBusy was | retrieveFailed error was | retrieved was
    | storeReshaped was | storeAcknowledged was | cacheReshaped was | cacheAcknowledged was
    | lock was | wait was | update manifest storage was | updated was | unlock was =>
      rw [isSync] at was
      cases was

end Tracking

/-- In every state of every run, an outbound sync that acknowledges its upload replaces the manifest
    that it has uploaded and nothing that was stored meanwhile, and leaves what is seen of it; when
    something was stored meanwhile, the sync gives up. -/
theorem outbound_sync_never_overwrites (context : OutboundContext) {start s : OutboundSystem}
    {events : List (Nat × OutboundEvent)} (starts : start.Starts) (shows : start.CacheShows)
    (run : Run (Recorded (OutboundStep context)) (fun _ _ => True) (start, []) (s, events)) :
    NeverOverwrites context s events := by
  have tracked : Tracked context s events := by
    apply @Run.keeps _ _ _ _ _ _ (fun state => Tracked context state.1 state.2) _ _ run
    · exact starts.tracked shows
    · rintro ⟨before, past⟩ ⟨t, event⟩ ⟨after, all⟩ inv - ⟨step, rfl⟩
      exact inv.step step
  exact ⟨tracked.acknowledged, fun t upload between isSync since stored =>
    tracked.busy isSync since stored⟩

section Alone
variable {start : OutboundSystem} {m : Arc LocalFolderManifest}

/-- A folder that nobody else works on is acknowledged. -/
theorem folder_acknowledged_alone (context : OutboundContext) (starts : start.Starts)
    (cached : start.cached = some (.folder m)) (needed : m.value.needSync = true)
    (children : Injective m.value.children) (base : Injective m.value.base.children) (t : Nat) :
    ∃ s events seen replaced manifest,
      Run (Recorded (OutboundStep context)) (fun _ _ => True) (start, []) (s, events) ∧
        (t, .acknowledged seen replaced manifest) ∈ events := by
  let upload := ManifestUpload.folder m (m.value.toRemote someFolderOrders context.deviceId 0) 0
  obtain ⟨r, data, made, -⟩ := @acknowledge_spec someFolderOrders m.value
    (m.value.toRemote someFolderOrders context.deviceId 0) rfl children base someFolderOrders
    context.preventSyncPattern 0
  have isMade : upload.localFromRemote context someFolderOrders = .ok (.folder r) := by
    change (do return LocalChildManifest.folder (← _)) = _
    rw [made]
    rfl
  obtain ⟨locks₁, takes, -, held₁, -⟩ := UpdateLocks.take_free starts.free
  have isHeld : start.entryId ∈ locks₁.held := by rw [held₁]; exact Finset.mem_insert_self _ _
  obtain ⟨locks₂, released, held₂, -⟩ :=
    UpdateLocks.release_held (show (⟨start.entryId⟩ : ManifestUpdateLockGuard).entryId ∈ _ from isHeld)
  have free₂ : start.entryId ∉ locks₂.held := by rw [held₂]; exact Finset.notMem_erase _ _
  obtain ⟨locks₃, -, tries, -⟩ := UpdateLocks.take_free free₂
  have relocked : (OutboundPhase.acknowledging upload).relocked start.cached =
      some (.acknowledgeLocked upload) := by
    rw [cached]
    simp [OutboundPhase.relocked, upload, folderHasChanged]
  have idle : Run (Recorded (OutboundStep context)) (fun _ _ => True) (start, []) (start, []) := .start
  have retrieving := idle.record trivial (.retrieve (starts.idle t) takes (.reachable cached))
  have retrieved := retrieving.record trivial (.retrieved (setTask_same _ _ _) released)
  have uploading := retrieved.record trivial
    (.move (setTask_same _ _ _) (.syncFolder someFolderOrders 0 needed))
  have accepted := uploading.record trivial (.move (setTask_same _ _ _) .accepted)
  have locked := accepted.record trivial (.relock (setTask_same _ _ _) tries relocked)
  have acknowledged := locked.record trivial
    (@OutboundStep.storeAcknowledged _ _ _ _ _ _ (m.pointer + 1) (setTask_same _ _ _) isMade trivial ?_)
  · exact ⟨_, _, _, _, _, acknowledged, List.mem_append_right _ (List.mem_singleton_self _)⟩
  · rintro (⟨l, shown, at_⟩ | ⟨i, l, kept, at_⟩)
    · cases cached.symm.trans shown
      exact absurd at_ (Nat.succ_ne_self _).symm
    · by_cases here : i = t
      · rw [here, setTask_same] at kept
        rcases kept with pending | snapshot
        · cases pending
        · cases snapshot
          exact absurd at_ (Nat.succ_ne_self _).symm
      · simp only [setTask_other _ _ here] at kept
        rw [show start.tasks i = .idle from starts.idle i] at kept
        rcases kept with pending | snapshot
        · cases pending
        · cases snapshot

end Alone
/-- A folder edited since it was uploaded, in a workspace that has just been opened. -/
def editedFolder : LocalFolderManifest :=
  confinedFolder patternB (Finmap.singleton entryB ⟨1⟩) (Finmap.singleton entryA ⟨2⟩)

def editedEntry : OutboundSystem where
  entryId := ⟨7⟩
  locks := .new
  cached := some (.folder ⟨0, editedFolder⟩)
  stored := some (.folder editedFolder)
  storage := ⟨fun _ => none, fun _ => none, ∅⟩
  tasks := fun _ => .idle

theorem outbound_sync_never_overwrites_editedEntry :
    ∃ s events seen replaced manifest, NeverOverwrites ⟨⟨0⟩, patternB, noDigest⟩ s events ∧
      (0, .acknowledged seen replaced manifest) ∈ events := by
  have starts : editedEntry.Starts := by
    refine ⟨fun _ => rfl, by simp [editedEntry], ?_⟩
    intro manifest cached
    cases cached
    trivial
  have shows : editedEntry.CacheShows := by
    intro manifest cached
    cases cached
    rfl
  obtain ⟨s, events, seen, replaced, manifest, run, member⟩ :=
    folder_acknowledged_alone ⟨⟨0⟩, patternB, noDigest⟩ starts rfl rfl
      HashMap.injective_singleton HashMap.injective_singleton 0
  exact ⟨s, events, seen, replaced, manifest,
    outbound_sync_never_overwrites _ starts shows run, member⟩

end ParsecCloud

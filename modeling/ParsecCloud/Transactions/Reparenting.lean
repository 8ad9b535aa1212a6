import ParsecCloud.Lib.Calls
import ParsecCloud.Store.UpdateLocks
import ParsecCloud.Transactions.MoveEntry
import Mathlib.Data.List.Perm.Basic

/- The locks of a reparenting (resolve_path_for_reparenting of store/resolve_path.rs). An attempt
   collects its guards in a structure that releases the ones it still has when it is dropped. The
   manifests in the cache do not change during an attempt. -/
namespace ParsecCloud
open Rust HashMap

structure AutoReleaseGuards where
  locks : UpdateLocks
  srcParentGuard : Option ManifestUpdateLockGuard
  srcChildGuard : Option ManifestUpdateLockGuard
  dstParentGuard : Option ManifestUpdateLockGuard
  dstChildGuard : Option ManifestUpdateLockGuard

namespace AutoReleaseGuards

def start (locks : UpdateLocks) : AutoReleaseGuards := ⟨locks, none, none, none, none⟩

/-- The guards that have not been taken out, in the order in which they are released. -/
def guards (s : AutoReleaseGuards) : List ManifestUpdateLockGuard :=
  s.srcParentGuard.toList ++ s.srcChildGuard.toList ++ s.dstParentGuard.toList ++
    s.dstChildGuard.toList

def drop (s : AutoReleaseGuards) : Checked UpdateLocks := s.locks.releaseAll s.guards

def guardOf (s : AutoReleaseGuards) : WhoIsInNeed → Option ManifestUpdateLockGuard
  | .srcParent => s.srcParentGuard
  | .srcChild => s.srcChildGuard
  | .dstParent => s.dstParentGuard
  | .dstChild => s.dstChildGuard

def keep (s : AutoReleaseGuards) (guard : ManifestUpdateLockGuard) :
    WhoIsInNeed → AutoReleaseGuards
  | .srcParent => { s with srcParentGuard := some guard }
  | .srcChild => { s with srcChildGuard := some guard }
  | .dstParent => { s with dstParentGuard := some guard }
  | .dstChild => { s with dstChildGuard := some guard }

end AutoReleaseGuards

structure ResolvePathForReparenting where
  srcParentManifest : LocalFolderManifest
  srcParentUpdateLockGuard : ManifestUpdateLockGuard
  srcChildManifest : LocalChildManifest
  srcChildUpdateLockGuard : ManifestUpdateLockGuard
  dstParentManifest : LocalFolderManifest
  dstParentUpdateLockGuard : ManifestUpdateLockGuard
  dstChildManifest : Option LocalChildManifest
  dstChildUpdateLockGuard : Option ManifestUpdateLockGuard

def ResolvePathForReparenting.guards (resolution : ResolvePathForReparenting) :
    List ManifestUpdateLockGuard :=
  [resolution.srcParentUpdateLockGuard, resolution.srcChildUpdateLockGuard,
    resolution.dstParentUpdateLockGuard] ++ resolution.dstChildUpdateLockGuard.toList

/-- How an attempt ends without a resolution. -/
inductive AttemptEnd where
  | notFound (who : WhoIsInNeed)
  | needPopulateCache (id : VlobID) (who : WhoIsInNeed)
  | needWaitForTakenUpdateLock (event : Nat) (who : WhoIsInNeed)
  | panics (panic : Panic)

abbrev Attempt (α : Type) := Call AutoReleaseGuards AttemptEnd α

def lockEntry (who : WhoIsInNeed) (entryId : VlobID) : Attempt Unit := fun s =>
  match s.locks.take entryId with
  | (.taken guard, locks) => (.ok (), { s with locks := locks }.keep guard who)
  | (.needWait event, locks) =>
    (.error (.needWaitForTakenUpdateLock event who), { s with locks := locks })

/-- The path of a parent is resolved and locked before its manifest is looked at. -/
def lockParent (realmId : VlobID) (manifests : ManifestsHashMap) (who : WhoIsInNeed)
    (parts : List EntryName) : Attempt LocalFolderManifest :=
  match parts.foldlM (resolvePart manifests) .root with
  | .error .entryNotFound => Call.check (.error (.notFound who))
  | .error (.needPopulateCache id) => Call.check (.error (.needPopulateCache id who))
  | .ok lastStep => do
    lockEntry who (lastStep.lockId realmId)
    match lastStep.manifest manifests with
    | .file _ => Call.check (.error (.notFound who))
    | .folder manifest => return manifest

def lockChild (manifests : ManifestsHashMap) (who : WhoIsInNeed) (parent : LocalFolderManifest)
    (childName : EntryName) : Attempt LocalChildManifest :=
  match parent.children.lookup childName with
  | none => Call.check (.error (.notFound who))
  | some childId =>
    match manifests.get childId with
    | none => Call.check (.error (.needPopulateCache childId who))
    | some manifest =>
      if manifest.parent ≠ parent.base.id then Call.check (.error (.notFound who))
      else do
        lockEntry who childId
        return manifest

/-- The guards are taken out, to be returned. The one of the destination child is looked for where
    the one of the destination parent was. -/
def defuse (srcParent : LocalFolderManifest) (srcChild : LocalChildManifest)
    (dstParent : LocalFolderManifest) (dstChild : Option LocalChildManifest) :
    Attempt ResolvePathForReparenting := fun s =>
  match s.srcParentGuard, s.srcChildGuard, s.dstParentGuard with
  | some srcParentGuard, some srcChildGuard, some dstParentGuard =>
    let s :=
      { s with srcParentGuard := none, srcChildGuard := none, dstParentGuard := none }
    (.ok ⟨srcParent, srcParentGuard, srcChild, srcChildGuard, dstParent, dstParentGuard, dstChild,
      s.dstParentGuard⟩, s)
  | _, _, _ => (.error (.panics (.expect "always present")), s)

section Attempts
variable (realmId : VlobID) (manifests : ManifestsHashMap) (srcParentParts : List EntryName)
  (srcChildName : EntryName) (dstParentParts : List EntryName) (dstChildName : Option EntryName)

def lockDstChild (dstParent : LocalFolderManifest) : Attempt (Option LocalChildManifest) :=
  match dstChildName with
  | none => return none
  | some name => do
    let dstChild ← lockChild manifests .dstChild dstParent name
    return some dstChild

def lockAll : Attempt ResolvePathForReparenting := do
  let dstParent ← lockParent realmId manifests .dstParent dstParentParts
  let srcParent ← lockParent realmId manifests .srcParent srcParentParts
  let srcChild ← lockChild manifests .srcChild srcParent srcChildName
  let dstChild ← lockDstChild manifests dstChildName dstParent
  defuse srcParent srcChild dstParent dstChild

/-- One attempt: the guards that are left are released at its end. -/
def reparentingAttempt (locks : UpdateLocks) :
    Checked (Except AttemptEnd ResolvePathForReparenting × UpdateLocks) :=
  match lockAll realmId manifests srcParentParts srcChildName dstParentParts dstChildName
      (.start locks) with
  | (.error (.panics panic), _) => .error panic
  | (outcome, s) => do return (outcome, ← s.drop)

end Attempts

section Entries
variable (realmId : VlobID) (manifests : ManifestsHashMap)

/-- The entry of a parent, then those that come after a folder. -/
def parentThen (parts : List EntryName) (rest : LocalFolderManifest → List VlobID) : List VlobID :=
  match parts.foldlM (resolvePart manifests) .root with
  | .error _ => []
  | .ok lastStep =>
    lastStep.lockId realmId ::
      match lastStep.manifest manifests with
      | .file _ => []
      | .folder manifest => rest manifest

def childThen (parent : LocalFolderManifest) (childName : EntryName) (rest : List VlobID) :
    List VlobID :=
  match parent.children.lookup childName with
  | none => []
  | some childId =>
    match manifests.get childId with
    | none => []
    | some manifest => if manifest.parent ≠ parent.base.id then [] else childId :: rest

/-- The entries that an attempt locks one after the other, as far as it goes when no lock is in its
    way. -/
def entriesToLock (srcParentParts : List EntryName) (srcChildName : EntryName)
    (dstParentParts : List EntryName) (dstChildName : Option EntryName) : List VlobID :=
  parentThen realmId manifests dstParentParts fun dstParent =>
    parentThen realmId manifests srcParentParts fun srcParent =>
      childThen manifests srcParent srcChildName
        (dstChildName.elim [] fun name => childThen manifests dstParent name [])

end Entries

/-- The attempt has these guards beside the locks that were taken before. -/
structure Stage (before : PerManifestUpdateLock) (s : AutoReleaseGuards) (ids : List VlobID) :
    Prop where
  nodup : ids.Nodup
  fresh : ∀ id ∈ ids, id ∉ before
  held : ∀ id, id ∈ s.locks.held ↔ id ∈ before ∨ id ∈ ids
  guards : (s.guards.map (·.entryId)).Perm ids

/-- The next entry is locked already: by somebody else, or by the attempt itself. -/
def Blocked (before : PerManifestUpdateLock) (s : AutoReleaseGuards) (entries : List VlobID)
    (event : Nat) : Prop :=
  ∃ ids id, ids ++ [id] <+: entries ∧ (id ∈ before ∨ id ∈ ids) ∧ Stage before s ids ∧
    s.locks.perManifestLock.get? id = some (.takenWithConcurrency event)

/-- No entry is left to lock, and the one of the destination child was not reached. -/
structure Ended (before : PerManifestUpdateLock) (s : AutoReleaseGuards) (entries : List VlobID) :
    Prop where
  stage : Stage before s entries
  noDstChild : s.guardOf .dstChild = none

/-- A folder of the cache lists an entry that is not in the cache. -/
def MissingChild (manifests : ManifestsHashMap) (id : VlobID) : Prop :=
  manifests.get id = none ∧ ∃ parentId parent name,
    manifests.get parentId = some (.folder parent) ∧ parent.children.lookup name = some id

/-- A part of an attempt goes through the entries in their order. -/
def Follows (manifests : ManifestsHashMap) (before : PerManifestUpdateLock) (entries : List VlobID)
    (good : α → AutoReleaseGuards → Prop) : Except AttemptEnd α × AutoReleaseGuards → Prop
  | (.ok a, s) => good a s
  | (.error (.notFound _), s) => Ended before s entries
  | (.error (.needPopulateCache id _), s) => Ended before s entries ∧ MissingChild manifests id
  | (.error (.needWaitForTakenUpdateLock event _), s) => Blocked before s entries event
  | (.error (.panics _), _) => False

section Follows
variable {manifests : ManifestsHashMap} {before : PerManifestUpdateLock} {entries ids : List VlobID}
  {s s' : AutoReleaseGuards}

theorem Follows.bind {call : Attempt α} {next : α → Attempt β} {good : α → AutoReleaseGuards → Prop}
    {good' : β → AutoReleaseGuards → Prop} (first : Follows manifests before entries good (call s))
    (rest : ∀ a s', good a s' → Follows manifests before entries good' (next a s')) :
    Follows manifests before entries good' ((call >>= next) s) := by
  cases done : call s with
  | mk outcome s' =>
    rw [done] at first
    cases outcome with
    | ok a =>
      rw [Call.bind_of_ok done]
      exact rest a s' first
    | error stop =>
      rw [Call.bind_of_error done]
      cases stop with
      | notFound who => exact first
      | needPopulateCache id who => exact first
      | needWaitForTakenUpdateLock event who => exact first
      | panics panic => exact first

theorem guards_keep (s : AutoReleaseGuards) (guard : ManifestUpdateLockGuard) (who : WhoIsInNeed)
    (empty : s.guardOf who = none) : (s.keep guard who).guards.Perm (s.guards ++ [guard]) := by
  obtain ⟨locks, srcParent, srcChild, dstParent, dstChild⟩ := s
  rw [List.perm_iff_count]
  intro other
  cases who with
  | srcParent =>
    cases empty
    simp only [AutoReleaseGuards.keep, AutoReleaseGuards.guards, Option.toList_some,
      Option.toList_none, List.count_append, List.count_nil]
    omega
  | srcChild =>
    cases empty
    simp only [AutoReleaseGuards.keep, AutoReleaseGuards.guards, Option.toList_some,
      Option.toList_none, List.count_append, List.count_nil]
    omega
  | dstParent =>
    cases empty
    simp only [AutoReleaseGuards.keep, AutoReleaseGuards.guards, Option.toList_some,
      Option.toList_none, List.count_append, List.count_nil]
    omega
  | dstChild =>
    cases empty
    simp [AutoReleaseGuards.keep, AutoReleaseGuards.guards]

theorem guardOf_keep (s : AutoReleaseGuards) (guard : ManifestUpdateLockGuard) (who : WhoIsInNeed) :
    (s.keep guard who).guardOf who = some guard := by
  cases who <;> rfl

theorem guardOf_keep_of_ne (s : AutoReleaseGuards) (guard : ManifestUpdateLockGuard)
    {who other : WhoIsInNeed} (differs : other ≠ who) :
    (s.keep guard who).guardOf other = s.guardOf other := by
  cases who with
  | srcParent => cases other <;> first | rfl | exact absurd rfl differs
  | srcChild => cases other <;> first | rfl | exact absurd rfl differs
  | dstParent => cases other <;> first | rfl | exact absurd rfl differs
  | dstChild => cases other <;> first | rfl | exact absurd rfl differs

/-- What is known once an entry is locked. -/
structure Locked (before : PerManifestUpdateLock) (s s' : AutoReleaseGuards) (ids : List VlobID)
    (who : WhoIsInNeed) (id : VlobID) : Prop where
  stage : Stage before s' (ids ++ [id])
  guard : s'.guardOf who = some ⟨id⟩
  others : ∀ other, other ≠ who → s'.guardOf other = s.guardOf other

theorem lockEntry_follows {who : WhoIsInNeed} {id : VlobID} (stage : Stage before s ids)
    (empty : s.guardOf who = none) (within : ids ++ [id] <+: entries) :
    Follows manifests before entries (fun _ s' => Locked before s s' ids who id)
      (lockEntry who id s) := by
  unfold lockEntry
  by_cases busy : id ∈ s.locks.held
  · obtain ⟨event, locks, isTake, -, isHeld, waits⟩ := UpdateLocks.take_busy busy
    rw [isTake]
    refine ⟨ids, id, within, (stage.held id).mp busy, ?_, waits⟩
    exact ⟨stage.nodup, stage.fresh, fun other => isHeld ▸ stage.held other, stage.guards⟩
  · obtain ⟨locks, isTake, -, isHeld, -⟩ := UpdateLocks.take_free busy
    rw [isTake]
    have isNew : id ∉ before ∧ id ∉ ids := by
      rw [stage.held id, not_or] at busy
      exact busy
    constructor
    · constructor
      · rw [List.nodup_append]
        exact ⟨stage.nodup, List.nodup_singleton id,
          fun other isOld new isId => by
            rw [List.mem_singleton.mp isId]
            rintro rfl
            exact isNew.2 isOld⟩
      · intro other isOther
        rcases List.mem_append.mp isOther with isOld | isId
        · exact stage.fresh other isOld
        · rw [List.mem_singleton.mp isId]
          exact isNew.1
      · intro other
        have locksKept : ({ s with locks := locks }.keep ⟨id⟩ who).locks = locks := by
          cases who <;> rfl
        rw [locksKept, isHeld, Finset.mem_insert, stage.held, List.mem_append, List.mem_singleton,
          or_comm, or_assoc]
      · have perm := (guards_keep { s with locks := locks } ⟨id⟩ who (by
          cases who <;> exact empty)).map (·.entryId)
        rw [List.map_append] at perm
        exact perm.trans (stage.guards.append_right _)
    · exact guardOf_keep _ _ who
    · intro other differs
      rw [guardOf_keep_of_ne _ _ differs]
      cases other <;> rfl

theorem Stage.end (stage : Stage before s ids) (noDstChild : s.guardOf .dstChild = none)
    (atEnd : entries = ids) : Ended before s entries :=
  ⟨atEnd ▸ stage, noDstChild⟩

/-- The lock of a parent is the one of the realm when its path is the root. -/
def parentLockId (realmId : VlobID) (parts : List EntryName) (manifest : LocalFolderManifest) :
    VlobID :=
  if parts = [] then realmId else manifest.base.id

theorem resolvePart_child {lastStep next : StepKind} {name : EntryName}
    (resolved : resolvePart manifests lastStep name = .ok next) :
    ∃ manifest confinement, next = .child manifest confinement := by
  unfold resolvePart at resolved
  split at resolved
  · cases resolved
  · split at resolved
    · cases resolved
    · split at resolved
      · cases resolved
      · split at resolved
        · cases resolved
        · cases resolved
          exact ⟨_, _, rfl⟩

theorem lockId_of_folder {parts : List EntryName} {realmId : VlobID} {lastStep : StepKind}
    {folder : LocalFolderManifest}
    (resolved : parts.foldlM (resolvePart manifests) .root = .ok lastStep)
    (isFolder : lastStep.manifest manifests = .folder folder) :
    lastStep.lockId realmId = parentLockId realmId parts folder := by
  cases split : parts.reverse with
  | nil =>
    rw [List.reverse_eq_nil_iff] at split
    subst split
    cases resolved
    rw [parentLockId, if_pos rfl]
    rfl
  | cons last front =>
    have isParts : parts = front.reverse ++ [last] := by
      rw [← List.reverse_reverse parts, split, List.reverse_cons]
    have isChild : ∃ manifest confinement, lastStep = .child manifest confinement := by
      rw [isParts, List.foldlM_append] at resolved
      obtain ⟨before, -, resolved⟩ := bind_eq_ok.mp resolved
      obtain ⟨next, isNext, resolved⟩ := bind_eq_ok.mp resolved
      cases resolved
      exact resolvePart_child isNext
    obtain ⟨manifest, confinement, rfl⟩ := isChild
    rw [parentLockId, if_neg (by simp [isParts])]
    change manifest = .folder folder at isFolder
    subst isFolder
    rfl

/-- The manifest of a step is in the cache. -/
def Cached (manifests : ManifestsHashMap) (manifest : LocalChildManifest) : Prop :=
  ∃ id, manifests.get id = some manifest

theorem resolvePart_cached {lastStep next : StepKind} {name : EntryName}
    (resolved : resolvePart manifests lastStep name = .ok next) :
    Cached manifests (next.manifest manifests) := by
  unfold resolvePart at resolved
  split at resolved
  · cases resolved
  · split at resolved
    · cases resolved
    · rename_i childId listed
      split at resolved
      · cases resolved
      · rename_i child found
        split at resolved
        · cases resolved
        · cases resolved
          exact ⟨childId, found⟩

theorem resolvePart_missing {lastStep : StepKind} {name : EntryName} {id : VlobID}
    (cached : Cached manifests (lastStep.manifest manifests))
    (missing : resolvePart manifests lastStep name = .error (.needPopulateCache id)) :
    MissingChild manifests id := by
  obtain ⟨parentId, isParent⟩ := cached
  unfold resolvePart at missing
  split at missing
  · cases missing
  · rename_i parent isFolder
    rw [isFolder] at isParent
    split at missing
    · cases missing
    · rename_i childId listed
      split at missing
      · rename_i absent
        cases missing
        exact ⟨absent, parentId, parent, name, isParent, listed⟩
      · split at missing
        · cases missing
        · cases missing

theorem resolveParts_cached {parts : List EntryName} {step : StepKind}
    (cached : Cached manifests (step.manifest manifests)) :
    (∀ last, parts.foldlM (resolvePart manifests) step = .ok last →
      Cached manifests (last.manifest manifests)) ∧
    ∀ id, parts.foldlM (resolvePart manifests) step = .error (.needPopulateCache id) →
      MissingChild manifests id := by
  induction parts generalizing step with
  | nil =>
    constructor
    · intro last resolved
      cases resolved
      exact cached
    · intro id missing
      cases missing
  | cons name rest later =>
    cases next : resolvePart manifests step name with
    | ok step' =>
      have same : (name :: rest).foldlM (resolvePart manifests) step =
          rest.foldlM (resolvePart manifests) step' := by
        rw [List.foldlM_cons, next]
        rfl
      rw [same]
      exact later (resolvePart_cached next)
    | error stop =>
      have same : (name :: rest).foldlM (resolvePart manifests) step = .error stop := by
        rw [List.foldlM_cons, next]
        rfl
      rw [same]
      constructor
      · intro last resolved
        cases resolved
      · intro id missing
        cases missing
        exact resolvePart_missing cached next

theorem root_cached : Cached manifests (StepKind.root.manifest manifests) :=
  ⟨_, manifests.get_root⟩

theorem lockParent_follows {realmId : VlobID} {who : WhoIsInNeed} {parts : List EntryName}
    {rest : LocalFolderManifest → List VlobID} (isParent : who ≠ .dstChild)
    (stage : Stage before s ids) (empty : s.guardOf who = none)
    (noDstChild : s.guardOf .dstChild = none)
    (toLock : entries = ids ++ parentThen realmId manifests parts rest) :
    Follows manifests before entries
      (fun folder s' => Locked before s s' ids who (parentLockId realmId parts folder) ∧
        entries = ids ++ [parentLockId realmId parts folder] ++ rest folder ∧
        Cached manifests (.folder folder))
      (lockParent realmId manifests who parts s) := by
  have start : Cached manifests (StepKind.root.manifest manifests) := root_cached
  obtain ⟨cached, missing⟩ := @resolveParts_cached _ parts _ start
  unfold lockParent
  unfold parentThen at toLock
  cases resolved : parts.foldlM (resolvePart manifests) .root with
  | error stop =>
    rw [resolved] at toLock
    have atEnd : entries = ids := toLock.trans (List.append_nil ids)
    cases stop with
    | entryNotFound => exact stage.end noDstChild atEnd
    | needPopulateCache id => exact ⟨stage.end noDstChild atEnd, missing id resolved⟩
  | ok lastStep =>
    rw [resolved] at toLock
    have within : ids ++ [lastStep.lockId realmId] <+: entries := by
      rw [toLock]
      exact ⟨_, by rw [List.append_assoc]; rfl⟩
    apply Follows.bind (lockEntry_follows stage empty within)
    intro _ s' locked
    have isCached := cached lastStep resolved
    cases isManifest : lastStep.manifest manifests with
    | file manifest =>
      simp only [isManifest] at toLock
      exact locked.stage.end ((locked.others .dstChild isParent.symm).trans noDstChild) toLock
    | folder folder =>
      simp only [isManifest] at toLock
      rw [lockId_of_folder resolved isManifest] at locked toLock
      exact ⟨locked, toLock.trans (List.append_cons ids _ _), isManifest ▸ isCached⟩

theorem lockChild_follows {who : WhoIsInNeed} {parent : LocalFolderManifest}
    {childName : EntryName} {rest : List VlobID} (cached : Cached manifests (.folder parent))
    (stage : Stage before s ids) (empty : s.guardOf who = none)
    (noDstChild : s.guardOf .dstChild = none)
    (toLock : entries = ids ++ childThen manifests parent childName rest) :
    Follows manifests before entries
      (fun manifest s' => Locked before s s' ids who manifest.id ∧
        entries = ids ++ [manifest.id] ++ rest)
      (lockChild manifests who parent childName s) := by
  unfold lockChild
  unfold childThen at toLock
  cases listed : parent.children.lookup childName with
  | none =>
    rw [listed] at toLock
    exact stage.end noDstChild (toLock.trans (List.append_nil ids))
  | some childId =>
    rw [listed] at toLock
    cases found : manifests.get childId with
    | none =>
      simp only [found] at toLock ⊢
      obtain ⟨parentId, isParent⟩ := cached
      exact ⟨stage.end noDstChild (toLock.trans (List.append_nil ids)), found, parentId, parent,
        childName, isParent, listed⟩
    | some manifest =>
      simp only [found] at toLock ⊢
      by_cases agrees : manifest.parent ≠ parent.base.id
      · rw [if_pos agrees] at toLock ⊢
        exact stage.end noDstChild (toLock.trans (List.append_nil ids))
      · rw [if_neg agrees] at toLock ⊢
        have isId : manifest.id = childId := ManifestsHashMap.id_of_get found
        have within : ids ++ [childId] <+: entries := by
          rw [toLock]
          exact ⟨_, by rw [List.append_assoc]; rfl⟩
        apply Follows.bind (lockEntry_follows stage empty within)
        intro _ s' locked
        rw [← isId] at locked toLock
        exact ⟨locked, toLock.trans (List.append_cons ids _ _)⟩

theorem Stage.drop (stage : Stage before s ids) :
    ∃ locks, s.drop = .ok locks ∧ locks.held = before ∧ ∀ id ∈ ids, ∀ event,
      s.locks.perManifestLock.get? id = some (.takenWithConcurrency event) →
        event ∈ locks.notified := by
  have isHeld : ∀ guard ∈ s.guards, guard.entryId ∈ s.locks.held := by
    intro guard isGuard
    exact (stage.held _).mpr (Or.inr (stage.guards.mem_iff.mp (List.mem_map_of_mem isGuard)))
  obtain ⟨locks, released, held, -, wakes⟩ :=
    UpdateLocks.releaseAll_held (stage.guards.nodup_iff.mpr stage.nodup) isHeld
  refine ⟨locks, released, ?_, ?_⟩
  · ext id
    rw [held, stage.held, stage.guards.mem_iff]
    constructor
    · rintro ⟨isBefore | isOwn, notOwn⟩
      · exact isBefore
      · exact absurd isOwn notOwn
    · intro isBefore
      exact ⟨Or.inl isBefore, fun isOwn => stage.fresh id isOwn isBefore⟩
  · intro id isId event waits
    obtain ⟨guard, isGuard, rfl⟩ := List.mem_map.mp (stage.guards.mem_iff.mpr isId)
    exact wakes guard isGuard event waits

theorem Ended.length (ended : Ended before s entries) : entries.length < 4 := by
  obtain ⟨locks, srcParent, srcChild, dstParent, dstChild⟩ := s
  have noDstChild : dstChild = none := ended.noDstChild
  have length := ended.stage.guards.length_eq
  rw [noDstChild, List.length_map, AutoReleaseGuards.guards, List.length_append, List.length_append,
    List.length_append, Option.toList_none, List.length_nil] at length
  have first : srcParent.toList.length ≤ 1 := Option.length_toList_le
  have second : srcChild.toList.length ≤ 1 := Option.length_toList_le
  have third : dstParent.toList.length ≤ 1 := Option.length_toList_le
  simp only at length
  omega

end Follows

section Resolution
variable (realmId : VlobID) (srcParentParts dstParentParts : List EntryName)

/-- The entries of a resolution: both parents, the child and, in an exchange, the other child. -/
def ResolvePathForReparenting.parties (resolution : ResolvePathForReparenting) : List VlobID :=
  [parentLockId realmId srcParentParts resolution.srcParentManifest,
    resolution.srcChildManifest.id,
    parentLockId realmId dstParentParts resolution.dstParentManifest]

def ResolvePathForReparenting.entries (resolution : ResolvePathForReparenting) : List VlobID :=
  resolution.parties realmId srcParentParts dstParentParts ++
    resolution.dstChildManifest.toList.map LocalChildManifest.id

/-- What an attempt that goes to its end leaves: the guard of the destination child is not taken
    out. -/
structure Defused (before : PerManifestUpdateLock) (entries : List VlobID)
    (dstChildName : Option EntryName) (resolution : ResolvePathForReparenting)
    (s : AutoReleaseGuards) : Prop where
  nodup : entries.Nodup
  fresh : ∀ id ∈ entries, id ∉ before
  held : ∀ id, id ∈ s.locks.held ↔ id ∈ before ∨ id ∈ entries
  perm : (resolution.entries realmId srcParentParts dstParentParts).Perm entries
  returned : resolution.guards.map (·.entryId) =
    resolution.parties realmId srcParentParts dstParentParts
  left : s.guards.map (·.entryId) = resolution.dstChildManifest.toList.map LocalChildManifest.id
  given : resolution.dstChildManifest.isSome = dstChildName.isSome

end Resolution

section Attempts
variable {realmId : VlobID} {manifests : ManifestsHashMap} {srcParentParts : List EntryName}
  {srcChildName : EntryName} {dstParentParts : List EntryName} {dstChildName : Option EntryName}

theorem lockDstChild_follows {before : PerManifestUpdateLock} {entries ids : List VlobID}
    {s : AutoReleaseGuards} {dstParent : LocalFolderManifest}
    (cached : Cached manifests (.folder dstParent)) (stage : Stage before s ids)
    (empty : s.guardOf .dstChild = none)
    (toLock : entries = ids ++
      dstChildName.elim [] fun name => childThen manifests dstParent name []) :
    Follows manifests before entries
      (fun dstChild s' => Stage before s' entries ∧
        entries = ids ++ dstChild.toList.map LocalChildManifest.id ∧
        s'.guardOf .dstChild = dstChild.map (⟨·.id⟩) ∧
        (∀ other, other ≠ .dstChild → s'.guardOf other = s.guardOf other) ∧
        dstChild.isSome = dstChildName.isSome)
      (lockDstChild manifests dstChildName dstParent s) := by
  cases dstChildName with
  | none =>
    have atEnd : entries = ids := toLock.trans (List.append_nil ids)
    exact ⟨atEnd ▸ stage, toLock, empty, fun _ _ => rfl, rfl⟩
  | some name =>
    apply Follows.bind (lockChild_follows cached stage empty empty toLock)
    intro dstChild s' ⟨locked, isEntries⟩
    have atEnd : entries = ids ++ [dstChild.id] := isEntries.trans (List.append_nil _)
    exact ⟨atEnd ▸ locked.stage, atEnd, locked.guard, locked.others, rfl⟩

variable (realmId manifests srcParentParts srcChildName dstParentParts dstChildName)

theorem lockAll_follows (locks : UpdateLocks) :
    Follows manifests locks.held
      (entriesToLock realmId manifests srcParentParts srcChildName dstParentParts dstChildName)
      (Defused realmId srcParentParts dstParentParts locks.held
        (entriesToLock realmId manifests srcParentParts srcChildName dstParentParts dstChildName)
        dstChildName)
      (lockAll realmId manifests srcParentParts srcChildName dstParentParts dstChildName
        (.start locks)) := by
  have begin : Stage locks.held (.start locks) [] := by
    constructor
    · exact List.nodup_nil
    · intro id isId
      cases isId
    · intro id
      simp [AutoReleaseGuards.start]
    · exact List.Perm.nil
  apply Follows.bind (lockParent_follows (by simp) begin rfl rfl (List.nil_append _).symm)
  intro dstParent s₁ ⟨lockedDst, toLock₁, cachedDst⟩
  have noDstChild₁ : s₁.guardOf .dstChild = none := lockedDst.others .dstChild (by simp)
  apply Follows.bind (lockParent_follows (by simp) lockedDst.stage
    (lockedDst.others .srcParent (by simp)) noDstChild₁ toLock₁)
  intro srcParent s₂ ⟨lockedSrc, toLock₂, cachedSrc⟩
  have noSrcChild₂ : s₂.guardOf .srcChild = none :=
    (lockedSrc.others .srcChild (by simp)).trans (lockedDst.others .srcChild (by simp))
  have noDstChild₂ : s₂.guardOf .dstChild = none :=
    (lockedSrc.others .dstChild (by simp)).trans noDstChild₁
  apply Follows.bind (lockChild_follows cachedSrc lockedSrc.stage noSrcChild₂ noDstChild₂ toLock₂)
  intro srcChild s₃ ⟨lockedChild, toLock₃⟩
  have noDstChild₃ : s₃.guardOf .dstChild = none :=
    (lockedChild.others .dstChild (by simp)).trans noDstChild₂
  apply Follows.bind (lockDstChild_follows cachedDst lockedChild.stage noDstChild₃ toLock₃)
  intro dstChild s₄ ⟨stage, isEntries, isDstChild, others, given⟩
  have isSrcChild : s₄.guardOf .srcChild = some ⟨srcChild.id⟩ :=
    (others .srcChild (by simp)).trans lockedChild.guard
  have isSrcParent : s₄.guardOf .srcParent = some ⟨parentLockId realmId srcParentParts srcParent⟩ :=
    (others .srcParent (by simp)).trans
      ((lockedChild.others .srcParent (by simp)).trans lockedSrc.guard)
  have isDstParent : s₄.guardOf .dstParent = some ⟨parentLockId realmId dstParentParts dstParent⟩ :=
    (others .dstParent (by simp)).trans ((lockedChild.others .dstParent (by simp)).trans
      ((lockedSrc.others .dstParent (by simp)).trans lockedDst.guard))
  obtain ⟨locks', srcParentGuard, srcChildGuard, dstParentGuard, dstChildGuard⟩ := s₄
  cases isSrcParent
  cases isSrcChild
  cases isDstParent
  cases isDstChild
  constructor
  · exact stage.nodup
  · exact stage.fresh
  · exact stage.held
  · refine List.Perm.trans ?_ (List.Perm.of_eq isEntries.symm)
    apply List.Perm.append_right
    rw [List.perm_iff_count]
    intro id
    simp only [ResolvePathForReparenting.parties, List.nil_append, List.cons_append,
      List.count_cons, List.count_nil]
    omega
  · rfl
  · cases dstChild <;> rfl
  · exact given

/-- How an attempt ends, and the locks that are taken then. -/
def Attempted (before : PerManifestUpdateLock) (entries : List VlobID) :
    Except AttemptEnd ResolvePathForReparenting × UpdateLocks → Prop
  | (.ok resolution, locks) =>
    entries.Nodup ∧ (∀ id ∈ entries, id ∉ before) ∧
      (∀ id, id ∈ locks.held ↔
        id ∈ before ∨ id ∈ resolution.parties realmId srcParentParts dstParentParts) ∧
      (resolution.entries realmId srcParentParts dstParentParts).Perm entries ∧
      resolution.guards.map (·.entryId) =
        resolution.parties realmId srcParentParts dstParentParts ∧
      resolution.dstChildManifest.isSome = dstChildName.isSome
  | (.error (.notFound _), locks) =>
    locks.held = before ∧ entries.Nodup ∧ (∀ id ∈ entries, id ∉ before) ∧ entries.length < 4
  | (.error (.needPopulateCache id _), locks) =>
    locks.held = before ∧ entries.Nodup ∧ (∀ id ∈ entries, id ∉ before) ∧ entries.length < 4 ∧
      MissingChild manifests id
  | (.error (.needWaitForTakenUpdateLock event _), locks) =>
    locks.held = before ∧ ∃ ids id, ids ++ [id] <+: entries ∧
      (id ∈ before ∨ id ∈ ids ∧ event ∈ locks.notified)
  | (.error (.panics _), _) => False

theorem reparentingAttempt_spec (locks : UpdateLocks) :
    ∃ outcome locks', reparentingAttempt realmId manifests srcParentParts srcChildName
        dstParentParts dstChildName locks = .ok (outcome, locks') ∧
      Attempted realmId manifests srcParentParts dstParentParts dstChildName locks.held
        (entriesToLock realmId manifests srcParentParts srcChildName dstParentParts dstChildName)
        (outcome, locks') := by
  have follows := lockAll_follows realmId manifests srcParentParts srcChildName dstParentParts
    dstChildName locks
  unfold reparentingAttempt
  cases done : lockAll realmId manifests srcParentParts srcChildName dstParentParts dstChildName
      (.start locks) with
  | mk outcome s =>
    rw [done] at follows
    cases outcome with
    | ok resolution =>
      have nodup : (s.guards.map (·.entryId)).Nodup := by
        rw [follows.left]
        exact (List.nodup_append.mp (follows.perm.nodup_iff.mpr follows.nodup)).2.1
      have isHeld : ∀ guard ∈ s.guards, guard.entryId ∈ s.locks.held := by
        intro guard isGuard
        have isLeft := List.mem_map_of_mem (f := (·.entryId)) isGuard
        rw [follows.left] at isLeft
        exact (follows.held _).mpr (Or.inr
          (follows.perm.mem_iff.mp (List.mem_append_right _ isLeft)))
      obtain ⟨locks', released, held, -, -⟩ := UpdateLocks.releaseAll_held nodup isHeld
      refine ⟨.ok resolution, locks', bind_eq_ok.mpr ⟨locks', released, rfl⟩, follows.nodup,
        follows.fresh, ?_, follows.perm, follows.returned, follows.given⟩
      intro id
      have apart := (List.nodup_append.mp (follows.perm.nodup_iff.mpr follows.nodup)).2.2
      have isEntry : id ∈ entriesToLock realmId manifests srcParentParts srcChildName dstParentParts
            dstChildName ↔
          id ∈ resolution.parties realmId srcParentParts dstParentParts ∨
            id ∈ s.guards.map (·.entryId) := by
        rw [← follows.perm.mem_iff, follows.left]
        exact List.mem_append
      rw [held, follows.held]
      constructor
      · rintro ⟨isBefore | isEntry', notLeft⟩
        · exact Or.inl isBefore
        · exact Or.inr ((isEntry.mp isEntry').resolve_right notLeft)
      · rintro (isBefore | isParty)
        · refine ⟨Or.inl isBefore, fun isLeft => ?_⟩
          exact follows.fresh id (isEntry.mpr (Or.inr isLeft)) isBefore
        · refine ⟨Or.inr (isEntry.mpr (Or.inl isParty)), fun isLeft => ?_⟩
          rw [follows.left] at isLeft
          exact apart id isParty id isLeft rfl
    | error stop =>
      cases stop with
      | notFound who =>
        obtain ⟨locks', released, held, -⟩ := follows.stage.drop
        exact ⟨_, locks', bind_eq_ok.mpr ⟨locks', released, rfl⟩, held, follows.stage.nodup,
          follows.stage.fresh, follows.length⟩
      | needPopulateCache id who =>
        obtain ⟨ended, missing⟩ := follows
        obtain ⟨locks', released, held, -⟩ := ended.stage.drop
        exact ⟨_, locks', bind_eq_ok.mpr ⟨locks', released, rfl⟩, held, ended.stage.nodup,
          ended.stage.fresh, ended.length, missing⟩
      | needWaitForTakenUpdateLock event who =>
        obtain ⟨ids, id, within, busy, stage, waits⟩ := follows
        obtain ⟨locks', released, held, wakes⟩ := stage.drop
        refine ⟨_, locks', bind_eq_ok.mpr ⟨locks', released, rfl⟩, held, ids, id, within, ?_⟩
        rcases busy with isBefore | isOwn
        · exact Or.inl isBefore
        · exact Or.inr ⟨isOwn, wakes id isOwn event waits⟩
      | panics panic => cases follows

/-- The locks held beside those held before are the ones of the entries that are returned, each with
    its guard; an attempt that ends in another way holds none. -/
def TakesAnnounced (before : PerManifestUpdateLock) :
    Except AttemptEnd ResolvePathForReparenting × UpdateLocks → Prop
  | (.ok resolution, locks) =>
    resolution.dstChildManifest.isSome = dstChildName.isSome ∧
      (∀ id ∈ resolution.entries realmId srcParentParts dstParentParts, id ∉ before) ∧
      (∀ id, id ∈ locks.held ↔
        id ∈ before ∨ id ∈ resolution.entries realmId srcParentParts dstParentParts) ∧
      ∀ id ∈ resolution.entries realmId srcParentParts dstParentParts,
        ∃ guard ∈ resolution.guards, guard.entryId = id
  | (.error _, locks) => locks.held = before

section Spec
variable {realmId manifests srcParentParts dstParentParts dstChildName}

theorem not_waits {outcome : Except AttemptEnd ResolvePathForReparenting} {locks' : UpdateLocks}
    {before : PerManifestUpdateLock} {entries : List VlobID}
    (attempted : Attempted realmId manifests srcParentParts dstParentParts dstChildName before
      entries (outcome, locks'))
    (nodup : entries.Nodup) (free : ∀ id ∈ entries, id ∉ before) (event : Nat) (who : WhoIsInNeed) :
    outcome ≠ .error (.needWaitForTakenUpdateLock event who) := by
  rintro rfl
  obtain ⟨-, ids, id, within, busy⟩ := attempted
  have isEntry : id ∈ entries := within.subset (by simp)
  rcases busy with isBefore | ⟨isOwn, -⟩
  · exact free id isEntry isBefore
  · have apart := (List.nodup_append.mp (nodup.sublist within.sublist)).2.2
    exact apart id isOwn id (by simp) rfl

theorem not_takesAnnounced {outcome : Except AttemptEnd ResolvePathForReparenting}
    {locks' : UpdateLocks} {before : PerManifestUpdateLock} {entries : List VlobID}
    (attempted : Attempted realmId manifests srcParentParts dstParentParts dstChildName before
      entries (outcome, locks'))
    (long : 4 ≤ entries.length) (nodup : entries.Nodup) (free : ∀ id ∈ entries, id ∉ before) :
    ¬ TakesAnnounced realmId srcParentParts dstParentParts dstChildName before
      (outcome, locks') := by
  intro takes
  cases outcome with
  | error stop =>
    cases stop with
    | notFound who => exact absurd attempted.2.2.2 (Nat.not_lt.mpr long)
    | needPopulateCache id who => exact absurd attempted.2.2.2.1 (Nat.not_lt.mpr long)
    | needWaitForTakenUpdateLock event who => exact not_waits attempted nodup free event who rfl
    | panics panic => exact attempted
  | ok resolution =>
    obtain ⟨-, -, held, perm, -, -⟩ := attempted
    obtain ⟨-, -, announced, -⟩ := takes
    have length := perm.length_eq
    cases isDstChild : resolution.dstChildManifest with
    | none =>
      rw [ResolvePathForReparenting.entries, isDstChild] at length
      change 3 = _ at length
      omega
    | some dstChild =>
      have isEntry : dstChild.id ∈ resolution.entries realmId srcParentParts dstParentParts := by
        rw [ResolvePathForReparenting.entries, isDstChild]
        simp
      have isHeld := (announced dstChild.id).mpr (Or.inr isEntry)
      rcases (held dstChild.id).mp isHeld with isBefore | isParty
      · exact free dstChild.id (perm.subset isEntry) isBefore
      · have nodup' := perm.nodup_iff.mpr nodup
        rw [ResolvePathForReparenting.entries, isDstChild] at nodup'
        exact (List.nodup_append.mp nodup').2.2 dstChild.id isParty dstChild.id (by simp) rfl

end Spec

theorem reparenting_takes_announced_iff (locks : UpdateLocks) :
    (∃ outcome locks', reparentingAttempt realmId manifests srcParentParts srcChildName
        dstParentParts dstChildName locks = .ok (outcome, locks') ∧
      TakesAnnounced realmId srcParentParts dstParentParts dstChildName locks.held
        (outcome, locks')) ↔
    (entriesToLock realmId manifests srcParentParts srcChildName dstParentParts
        dstChildName).length < 4 ∨
      ¬ (entriesToLock realmId manifests srcParentParts srcChildName dstParentParts
        dstChildName).Nodup ∨
      ∃ id ∈ entriesToLock realmId manifests srcParentParts srcChildName dstParentParts
        dstChildName, id ∈ locks.held := by
  obtain ⟨outcome, locks', run, attempted⟩ := reparentingAttempt_spec realmId manifests
    srcParentParts srcChildName dstParentParts dstChildName locks
  constructor
  · rintro ⟨outcome', locks₂, run', takes⟩
    rw [run] at run'
    cases run'
    by_contra unblocked
    push Not at unblocked
    obtain ⟨long, nodup, free⟩ := unblocked
    exact not_takesAnnounced attempted long nodup free takes
  · intro condition
    refine ⟨outcome, locks', run, ?_⟩
    cases outcome with
    | error stop =>
      cases stop with
      | notFound who => exact attempted.1
      | needPopulateCache id who => exact attempted.1
      | needWaitForTakenUpdateLock event who => exact attempted.1
      | panics panic => exact attempted.elim
    | ok resolution =>
      obtain ⟨nodup, fresh, held, perm, returned, given⟩ := attempted
      have short : (entriesToLock realmId manifests srcParentParts srcChildName dstParentParts
          dstChildName).length < 4 := by
        rcases condition with short | repeated | ⟨id, isEntry, isHeld⟩
        · exact short
        · exact absurd nodup repeated
        · exact absurd isHeld (fresh id isEntry)
      have noDstChild : resolution.dstChildManifest = none := by
        rw [← perm.length_eq, ResolvePathForReparenting.entries, List.length_append,
          List.length_map] at short
        rw [← Option.length_toList_eq_zero_iff]
        change 3 + _ < 4 at short
        omega
      have entries : resolution.entries realmId srcParentParts dstParentParts =
          resolution.parties realmId srcParentParts dstParentParts := by
        rw [ResolvePathForReparenting.entries, noDstChild]
        rfl
      refine ⟨given, fun id isEntry => fresh id (perm.subset isEntry), entries ▸ held, ?_⟩
      intro id isEntry
      rw [entries, ← returned] at isEntry
      exact List.mem_map.mp isEntry

/-- The loop of attempts, for a number of turns, when nobody else does anything: an event is notified
    by the end of the attempt that waits for it, or never. -/
def retryReparenting
    (populate : VlobID → ManifestsHashMap → Except PopulateCacheError ManifestsHashMap) :
    Nat → ManifestsHashMap → UpdateLocks →
      Checked (Option (Except WorkspaceMoveEntryError ResolvePathForReparenting × UpdateLocks))
  | 0, _, _ => .ok none
  | turns + 1, manifests, locks => do
    match ← reparentingAttempt realmId manifests srcParentParts srcChildName dstParentParts
        dstChildName locks with
    | (.ok resolution, locks) => return some (.ok resolution, locks)
    | (.error (.notFound who), locks) => return some (.error who.notFound, locks)
    | (.error (.needPopulateCache id who), locks) =>
      match populate id manifests with
      | .error error => return some (.error (error.moveEntry who.notFound), locks)
      | .ok manifests => retryReparenting populate turns manifests locks
    | (.error (.needWaitForTakenUpdateLock event _), locks) =>
      if event ∈ locks.notified then retryReparenting populate turns manifests locks
      else return none
    | (.error (.panics panic), _) => .error panic

/-- Every child that a folder of the cache lists is in the cache. -/
def FullyPopulated (manifests : ManifestsHashMap) : Prop := ∀ id, ¬ MissingChild manifests id

/-- No attempt waits for a lock: when none is taken before, it could only be one of its own. -/
def NeverWaits (locks : UpdateLocks) : Prop :=
  ∀ event who locks', reparentingAttempt realmId manifests srcParentParts srcChildName
    dstParentParts dstChildName locks ≠ .ok (.error (.needWaitForTakenUpdateLock event who), locks')

section Alone
variable {realmId manifests srcParentParts srcChildName dstParentParts dstChildName}

theorem retryReparenting_waits
    (populate : VlobID → ManifestsHashMap → Except PopulateCacheError ManifestsHashMap)
    (repeated : ¬ (entriesToLock realmId manifests srcParentParts srcChildName dstParentParts
      dstChildName).Nodup) (turns : Nat) {locks : UpdateLocks} (free : locks.held = ∅) :
    retryReparenting realmId srcParentParts srcChildName dstParentParts dstChildName populate turns
      manifests locks = .ok none := by
  induction turns generalizing locks with
  | zero => rfl
  | succ turns later =>
    obtain ⟨outcome, locks', run, attempted⟩ := reparentingAttempt_spec realmId manifests
      srcParentParts srcChildName dstParentParts dstChildName locks
    rw [free] at attempted
    rw [retryReparenting, run, ok_bind]
    cases outcome with
    | ok resolution => exact absurd attempted.1 repeated
    | error stop =>
      cases stop with
      | notFound who => exact absurd attempted.2.1 repeated
      | needPopulateCache id who => exact absurd attempted.2.1 repeated
      | needWaitForTakenUpdateLock event who =>
        obtain ⟨isFree, ids, id, -, isBefore | ⟨-, isNotified⟩⟩ := attempted
        · cases isBefore
        · simp only [isNotified, if_true]
          exact later isFree
      | panics panic => exact attempted.elim

theorem retryReparenting_finishes
    (populate : VlobID → ManifestsHashMap → Except PopulateCacheError ManifestsHashMap)
    (populated : FullyPopulated manifests) {locks : UpdateLocks} (free : locks.held = ∅)
    (nodup : (entriesToLock realmId manifests srcParentParts srcChildName dstParentParts
      dstChildName).Nodup) :
    ∃ outcome, retryReparenting realmId srcParentParts srcChildName dstParentParts dstChildName
      populate 1 manifests locks = .ok (some outcome) := by
  obtain ⟨outcome, locks', run, attempted⟩ := reparentingAttempt_spec realmId manifests
    srcParentParts srcChildName dstParentParts dstChildName locks
  rw [free] at attempted
  rw [retryReparenting, run, ok_bind]
  cases outcome with
  | ok resolution => exact ⟨_, rfl⟩
  | error stop =>
    cases stop with
    | notFound who => exact ⟨_, rfl⟩
    | needPopulateCache id who => exact absurd attempted.2.2.2.2 (populated id)
    | needWaitForTakenUpdateLock event who =>
      exact absurd rfl (not_waits attempted nodup (fun id _ => Finset.notMem_empty id) event who)
    | panics panic => exact attempted.elim

theorem neverWaits_of_nodup {locks : UpdateLocks} (free : locks.held = ∅)
    (nodup : (entriesToLock realmId manifests srcParentParts srcChildName dstParentParts
      dstChildName).Nodup) :
    NeverWaits realmId manifests srcParentParts srcChildName dstParentParts dstChildName locks := by
  intro event who locks' waits
  obtain ⟨outcome, locks₁, run, attempted⟩ := reparentingAttempt_spec realmId manifests
    srcParentParts srcChildName dstParentParts dstChildName locks
  rw [run] at waits
  cases waits
  rw [free] at attempted
  exact not_waits attempted nodup (fun id _ => Finset.notMem_empty id) event who rfl

theorem reparenting_finishes_iff
    (populate : VlobID → ManifestsHashMap → Except PopulateCacheError ManifestsHashMap)
    (populated : FullyPopulated manifests) (locks : UpdateLocks) (free : locks.held = ∅) :
    (∃ turns outcome, retryReparenting realmId srcParentParts srcChildName dstParentParts
      dstChildName populate turns manifests locks = .ok (some outcome)) ∧
      NeverWaits realmId manifests srcParentParts srcChildName dstParentParts dstChildName locks ↔
    (entriesToLock realmId manifests srcParentParts srcChildName dstParentParts
      dstChildName).Nodup := by
  constructor
  · rintro ⟨⟨turns, outcome, finishes⟩, -⟩
    by_contra repeated
    rw [retryReparenting_waits populate repeated turns free] at finishes
    cases finishes
  · intro nodup
    obtain ⟨outcome, finishes⟩ := retryReparenting_finishes populate populated free nodup
    exact ⟨⟨1, outcome, finishes⟩, neverWaits_of_nodup free nodup⟩

end Alone
end Attempts

section Samples

def listedFolder (id parent : VlobID) (children : Children) : LocalFolderManifest where
  base := ⟨⟨0⟩, 0, id, parent, 1, 0, 0, children⟩
  parent := parent
  needSync := false
  updated := 0
  children := children
  localConfinementPoints := ∅
  remoteConfinementPoints := ∅
  speculative := false

/-- The root lists a and b, and a lists another b. -/
def twoFolders : ManifestsHashMap :=
  (((ManifestsHashMap.new
    (listedFolder ⟨1⟩ ⟨1⟩ ((Finmap.singleton entryA ⟨2⟩).insert entryB ⟨4⟩))).place
      (.folder (listedFolder ⟨2⟩ ⟨1⟩ (Finmap.singleton entryB ⟨3⟩))) fun _ => ⟨_, rfl⟩).place
      (.folder (listedFolder ⟨3⟩ ⟨2⟩ ∅)) fun _ => ⟨_, rfl⟩).place
      (.folder (listedFolder ⟨4⟩ ⟨1⟩ ∅)) fun _ => ⟨_, rfl⟩

example : entriesToLock ⟨1⟩ twoFolders [entryA] entryB [] (some entryB) = [⟨1⟩, ⟨2⟩, ⟨3⟩, ⟨4⟩] := by
  rfl
example : entriesToLock ⟨1⟩ twoFolders [] entryA [entryA] none = [⟨2⟩, ⟨1⟩, ⟨2⟩] := by
  rfl

/-- Both b are exchanged: the lock of the one under the root is released with the attempt. -/
theorem exchange_not_announced :
    ¬ ∃ outcome locks', reparentingAttempt ⟨1⟩ twoFolders [entryA] entryB [] (some entryB) .new =
        .ok (outcome, locks') ∧
      TakesAnnounced ⟨1⟩ [entryA] [] (some entryB) UpdateLocks.new.held (outcome, locks') := by
  rintro ⟨outcome, locks', run, takes⟩
  obtain ⟨outcome₁, locks₁, run₁, attempted⟩ := reparentingAttempt_spec ⟨1⟩ twoFolders [entryA]
    entryB [] (some entryB) .new
  rw [run] at run₁
  cases run₁
  have entries : entriesToLock ⟨1⟩ twoFolders [entryA] entryB [] (some entryB) =
      [⟨1⟩, ⟨2⟩, ⟨3⟩, ⟨4⟩] := rfl
  rw [entries] at attempted
  exact not_takesAnnounced attempted (by decide) (by decide) (fun id _ => Finset.notMem_empty id)
    takes

theorem twoFolders_get (id : VlobID) : twoFolders.get id =
    if id = ⟨4⟩ then some (.folder (listedFolder ⟨4⟩ ⟨1⟩ ∅))
    else if id = ⟨3⟩ then some (.folder (listedFolder ⟨3⟩ ⟨2⟩ ∅))
    else if id = ⟨2⟩ then some (.folder (listedFolder ⟨2⟩ ⟨1⟩ (Finmap.singleton entryB ⟨3⟩)))
    else if id = ⟨1⟩ then
      some (.folder (listedFolder ⟨1⟩ ⟨1⟩ ((Finmap.singleton entryA ⟨2⟩).insert entryB ⟨4⟩)))
    else none := by
  simp only [ManifestsHashMap.get, twoFolders, ManifestsHashMap.place, ManifestsHashMap.new,
    lookup_insert_ite, lookup_singleton_ite]
  rfl

theorem twoFolders_populated : FullyPopulated twoFolders := by
  rintro id ⟨absent, parentId, parent, name, isParent, listed⟩
  have among : id = ⟨2⟩ ∨ id = ⟨3⟩ ∨ id = ⟨4⟩ := by
    rw [twoFolders_get] at isParent
    split_ifs at isParent <;> cases isParent <;>
      simp only [listedFolder, lookup_insert_ite, lookup_singleton_ite, Finmap.lookup_empty] at listed
    · cases listed
    · cases listed
    · split_ifs at listed
      cases listed
      simp
    · split_ifs at listed <;> cases listed <;> simp
  rw [twoFolders_get] at absent
  rcases among with rfl | rfl | rfl <;> cases absent

/-- The folder a is moved into itself: no number of turns is enough. -/
theorem move_into_itself_waits :
    ¬ ((∃ turns outcome, retryReparenting ⟨1⟩ [] entryA [entryA] none (fun _ _ => .error .offline)
        turns twoFolders .new = .ok (some outcome)) ∧
      NeverWaits ⟨1⟩ twoFolders [] entryA [entryA] none .new) := by
  rintro ⟨⟨turns, outcome, finishes⟩, -⟩
  rw [retryReparenting_waits _ (by decide) turns rfl] at finishes
  cases finishes

theorem reparenting_finishes_iff_exchange :
    (∃ turns outcome, retryReparenting ⟨1⟩ [entryA] entryB [] (some entryB)
        (fun _ _ => .error .offline) turns twoFolders .new = .ok (some outcome)) ∧
      NeverWaits ⟨1⟩ twoFolders [entryA] entryB [] (some entryB) .new ↔
    (entriesToLock ⟨1⟩ twoFolders [entryA] entryB [] (some entryB)).Nodup :=
  reparenting_finishes_iff _ twoFolders_populated .new rfl

end Samples
end ParsecCloud

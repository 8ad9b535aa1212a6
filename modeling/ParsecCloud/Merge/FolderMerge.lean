import ParsecCloud.Folder.NeedSync
import ParsecCloud.Merge.Children
import ParsecCloud.Merge.FileMerge

/- The merge of a local folder manifest with a newer remote one (merge.rs). -/
namespace ParsecCloud
open Rust HashMap LocalFolderManifest UnconfinedLocalFolderManifest

inductive MergeLocalFolderManifestOutcome where
  | noChange
  | merged (manifest : LocalFolderManifest)

section Merge
variable (nfc : List Char → List Char) (childrenOrders : ChildrenOrders) (orders : FolderOrders)

/-- The unconfined remote, changed by the merge of both sides. -/
def mergeUnconfined (timestamp : DateTime)
    (unconfinedLocal unconfinedRemote : UnconfinedLocalFolderManifest) :
    Checked UnconfinedLocalFolderManifest := do
  let mergedChildren ← mergeChildren nfc childrenOrders unconfinedLocal.base.children
    unconfinedLocal.children unconfinedRemote.children
  let mergedParent := mergeParent unconfinedLocal.base.parent unconfinedLocal.parent
    unconfinedRemote.parent
  let mergedNeedSync : Bool := mergedChildren != unconfinedRemote.children ||
    mergedParent != unconfinedRemote.parent
  return { unconfinedRemote with
    children := mergedChildren, parent := mergedParent, needSync := mergedNeedSync
    updated := if mergedNeedSync then timestamp else unconfinedRemote.updated }

def mergeLocalFolderManifest (localAuthor : DeviceID) (timestamp : DateTime)
    (preventSyncPattern : PreventSyncPattern) (m : LocalFolderManifest) (remote : FolderManifest) :
    Checked MergeLocalFolderManifestOutcome := do
  assert (m.base.id == remote.id) "local.base.id == remote.id"
  if remote.version ≤ m.base.version then return .noChange
  else
    let unconfinedLocal := removeConfinement orders m
    let unconfinedRemote := UnconfinedLocalFolderManifest.fromRemote remote
    if unconfinedLocal.needSync = false then
      return .merged (← unconfinedRemote.applyConfinement orders m preventSyncPattern timestamp)
    else if unconfinedRemote.base.author = localAuthor ∧ m.speculative = false then
      let unconfinedLocal := { unconfinedLocal with base := unconfinedRemote.base }
      return .merged (← unconfinedLocal.applyConfinement orders m preventSyncPattern timestamp)
    else
      let unconfined ← mergeUnconfined nfc childrenOrders timestamp unconfinedLocal unconfinedRemote
      return .merged (← unconfined.applyConfinement orders m preventSyncPattern timestamp)

end Merge

section Sound
variable {nfc : List Char → List Char} {childrenOrders : ChildrenOrders}
variable (orders : FolderOrders) (timestamp : DateTime) {m : LocalFolderManifest}

theorem fromRemote_sound (pattern : PreventSyncPattern) {remote : FolderManifest}
    (existing : Injective m.children) (injective : Injective remote.children) :
    ∃ r, (UnconfinedLocalFolderManifest.fromRemote remote).applyConfinement orders m pattern
      timestamp = .ok r ∧ NeedSyncSound r :=
  applyConfinement_sound orders pattern timestamp injective injective existing
    fun _ => ⟨rfl, rfl⟩

theorem mergeUnconfined_sound {unconfinedLocal unconfined : UnconfinedLocalFolderManifest}
    {remote : FolderManifest}
    (run : mergeUnconfined nfc childrenOrders timestamp unconfinedLocal
      (UnconfinedLocalFolderManifest.fromRemote remote) = .ok unconfined) :
    unconfined.base = remote ∧ Injective unconfined.children ∧
      (unconfined.needSync = false →
        unconfined.children = remote.children ∧ unconfined.parent = remote.parent) := by
  unfold mergeUnconfined at run
  obtain ⟨mergedChildren, merging, result⟩ := bind_eq_ok.mp run
  cases result
  refine ⟨rfl, mergeChildren_injective merging, ?_⟩
  intro unflagged
  simpa [UnconfinedLocalFolderManifest.fromRemote] using unflagged

theorem mergeLocalFolderManifest_sound {localAuthor : DeviceID} {pattern : PreventSyncPattern}
    {remote : FolderManifest} (children : Injective m.children) (base : Injective m.base.children)
    (injective : Injective remote.children) (newer : m.base.version < remote.version)
    (sameId : m.base.id = remote.id) :
    (∃ r, mergeLocalFolderManifest nfc childrenOrders orders localAuthor timestamp pattern m remote =
      .ok (.merged r) ∧ NeedSyncSound r) ∨
    ∃ panic, mergeChildren nfc childrenOrders m.base.children (removeConfinement orders m).children
      remote.children = .error panic := by
  have uploaded : Injective (removeConfinement orders m).children :=
    injective_removeConfinement orders children base
  unfold mergeLocalFolderManifest
  have checked : assert (m.base.id == remote.id) "local.base.id == remote.id" = .ok () := by
    simp [assert, sameId]
  rw [checked, ok_bind, if_neg (Nat.not_le.mpr newer)]
  simp only
  split
  · -- only the remote has changed
    obtain ⟨r, run, sound⟩ := fromRemote_sound orders timestamp pattern children injective
    exact Or.inl ⟨r, bind_eq_ok.mpr ⟨r, run, rfl⟩, sound⟩
  · rename_i flagged
    split
    · -- the remote changes are ours: the manifest stays flagged
      obtain ⟨r, run, sound⟩ := applyConfinement_sound orders pattern timestamp
        (m := { removeConfinement orders m with base := remote }) uploaded injective children
        fun unflagged => absurd unflagged flagged
      exact Or.inl ⟨r, bind_eq_ok.mpr ⟨r, run, rfl⟩, sound⟩
    · cases merged : mergeChildren nfc childrenOrders m.base.children
          (removeConfinement orders m).children remote.children with
      | error panic => exact Or.inr ⟨panic, rfl⟩
      | ok mergedChildren =>
        obtain ⟨unconfined, merging⟩ : ∃ unconfined, mergeUnconfined nfc childrenOrders timestamp
            (removeConfinement orders m) (UnconfinedLocalFolderManifest.fromRemote remote) =
            .ok unconfined := ⟨_, bind_eq_ok.mpr ⟨mergedChildren, merged, rfl⟩⟩
        obtain ⟨sameBase, distinct, consistent⟩ :=
          mergeUnconfined_sound timestamp merging
        obtain ⟨r, run, sound⟩ := applyConfinement_sound orders pattern timestamp distinct
          (sameBase ▸ injective) children (sameBase ▸ consistent)
        exact Or.inl ⟨r, bind_eq_ok.mpr ⟨unconfined, merging, bind_eq_ok.mpr ⟨r, run, rfl⟩⟩, sound⟩

end Sound

/-- A change that the server does not have is flagged by every operation. -/
theorem need_sync_stays_sound (p : PreventSyncPattern) (m : LocalFolderManifest)
    (confined : WellConfined p m) (sound : NeedSyncSound m) :
    (∀ orders data timestamp, ChangesFit data m.children →
      ∃ r, m.evolveChildrenAndMarkUpdated orders data p timestamp = .ok r ∧ NeedSyncSound r) ∧
    (∀ orders q timestamp, ∃ r, m.applyPreventSyncPattern orders q timestamp = .ok r ∧
      NeedSyncSound r) ∧
    (∀ nfc childrenOrders orders localAuthor timestamp q remote, Injective remote.children →
      m.base.version < remote.version → m.base.id = remote.id →
      (∃ r, mergeLocalFolderManifest nfc childrenOrders orders localAuthor timestamp q m remote =
        .ok (.merged r) ∧ NeedSyncSound r) ∨
      ∃ panic, mergeChildren nfc childrenOrders m.base.children
        (removeConfinement orders m).children remote.children = .error panic) ∧
    (∀ orders remote q timestamp, Injective remote.children →
      ∃ r, fromRemoteWithRestoredLocalConfinementPoints orders remote q m timestamp = .ok r ∧
        NeedSyncSound r) := by
  refine ⟨?_, ?_, ?_, ?_⟩
  · intro orders data timestamp fits
    obtain ⟨r, run, change⟩ := evolve_spec orders p timestamp confined.children fits
    exact ⟨r, run, evolved_sound confined.children fits change sound⟩
  · intro orders q timestamp
    apply applyConfinement_sound orders q timestamp
      (injective_removeConfinement orders confined.children confined.base) confined.base
      confined.children
    intro unflagged
    obtain ⟨uploaded, parent⟩ := sound unflagged
    exact ⟨uploaded orders m.base.author timestamp, parent⟩
  · intro nfc childrenOrders orders localAuthor timestamp q remote injective newer sameId
    exact mergeLocalFolderManifest_sound orders timestamp confined.children confined.base injective
      newer sameId
  · intro orders remote q timestamp injective
    exact fromRemote_sound orders timestamp q confined.children injective

/-- The folder as it is taken in when b is not shown. -/
def sampleFolder : LocalFolderManifest :=
  LocalFolderManifest.fromRemote (folderOf 1 (Finmap.singleton entryB ⟨1⟩)) patternB

theorem sampleFolder_stays_sound :
    (∃ r, sampleFolder.evolveChildrenAndMarkUpdated someFolderOrders
      (Finmap.singleton entryA (some ⟨2⟩)) patternB 1 = .ok r ∧ NeedSyncSound r) ∧
    (∃ r, sampleFolder.applyPreventSyncPattern someFolderOrders ⟨[]⟩ 1 = .ok r ∧ NeedSyncSound r) ∧
    (∃ r, fromRemoteWithRestoredLocalConfinementPoints someFolderOrders
      (folderOf 2 (Finmap.singleton entryA ⟨3⟩)) patternB sampleFolder 1 = .ok r ∧
      NeedSyncSound r) := by
  have injective : Injective (Finmap.singleton entryB (⟨1⟩ : VlobID) : Children) :=
    injective_singleton
  have sound : NeedSyncSound sampleFolder := by
    rw [sampleFolder, ← newManifest_fromRemote someFolderOrders]
    exact newManifest_sound someFolderOrders patternB injective fun _ => ⟨rfl, rfl⟩
  have all := need_sync_stays_sound patternB sampleFolder
    (fromRemote_wellConfined patternB injective) sound
  refine ⟨all.1 _ _ _ ?_, all.2.1 _ _ _, all.2.2.2 _ _ _ _ injective_singleton⟩
  have empty : ∀ name id, sampleFolder.children.lookup name ≠ some id := by
    intro name id found
    obtain ⟨there, shown⟩ := lookup_retain.mp found
    simp only [folderOf, lookup_singleton_ite] at there
    split at there
    · rename_i same
      subst same
      exact absurd shown (by decide)
    · cases there
  constructor
  · intro name removed
    simp [lookup_singleton_ite] at removed
  · intro name other id _ found
    exact absurd found (empty other id)

def emptyFolder : LocalFolderManifest := LocalFolderManifest.fromRemote (folderOf 1 ∅) patternB

/-- One id under a shown and under a hidden name. -/
def duplicatedFolder : FolderManifest :=
  folderOf 2 ((Finmap.singleton entryA ⟨1⟩).insert entryB ⟨1⟩)

theorem duplicated_remote_unsound :
    WellConfined patternB emptyFolder ∧ NeedSyncSound emptyFolder ∧
    ∃ r, fromRemoteWithRestoredLocalConfinementPoints someFolderOrders duplicatedFolder patternB
      emptyFolder 1 = .ok r ∧ ¬ NeedSyncSound r := by
  refine ⟨fromRemote_wellConfined patternB injective_empty, ?_, ?_⟩
  · rw [emptyFolder, ← newManifest_fromRemote someFolderOrders]
    exact newManifest_sound someFolderOrders patternB injective_empty fun _ => ⟨rfl, rfl⟩
  · have changes : (restoreExisting someFolderOrders patternB emptyFolder
        (newManifest someFolderOrders (UnconfinedLocalFolderManifest.fromRemote duplicatedFolder)
          patternB)).changes = ∅ := by
      have children : emptyFolder.children.keys = ∅ := rfl
      rw [restoreExisting, children, HashOrder.list_empty]
      rfl
    refine ⟨LocalFolderManifest.fromRemote duplicatedFolder patternB, ?_, ?_⟩
    · unfold fromRemoteWithRestoredLocalConfinementPoints applyConfinement
      simp only
      rw [if_pos, changes, evolve_nothing, newManifest_fromRemote]
      right
      rw [← Finset.nonempty_iff_ne_empty]
      exact ⟨⟨1⟩, mem_valuesAt.mpr ⟨entryB, by rfl, by decide⟩⟩
    · intro sound
      have uploaded := (sound rfl).1 someFolderOrders ⟨0⟩ 0
      have restored : (removeConfinement someFolderOrders
          (LocalFolderManifest.fromRemote duplicatedFolder patternB)).children.lookup entryB =
          some ⟨1⟩ := by
        change ((LocalFolderManifest.fromRemote duplicatedFolder patternB).toRemote someFolderOrders
          ⟨0⟩ 0).children.lookup entryB = some ⟨1⟩
        rw [uploaded]
        rfl
      -- the id is shown as a, so b is neither hidden nor shown
      rcases (lookup_removeConfinement someFolderOrders).mp restored with hidden | ⟨-, shown⟩
      · exact hidden.2.2 ⟨entryA, by rfl, by simp [LocalFolderManifest.fromRemote,
          applyConfinementFromRemote]⟩
      · exact absurd (lookup_retain.mp shown.1).2 (by decide)

end ParsecCloud

import ParsecCloud.Folder.RestoredTwice
import ParsecCloud.Merge.FolderMerge

/- When the merge of a folder returns, whatever the remote manifest lists. -/
namespace ParsecCloud
open Rust HashMap LocalFolderManifest UnconfinedLocalFolderManifest

/-- The confinement points are those of the pattern, and the children list no id twice. What the
    base lists comes from a remote manifest. -/
structure ConfinedFor (pattern : PreventSyncPattern) (m : LocalFolderManifest) : Prop where
  children : Injective m.children
  localPoints : m.localConfinementPoints = m.children.valuesAt pattern.isMatch
  remotePoints : m.remoteConfinementPoints = m.base.children.valuesAt pattern.isMatch

/-- The remote lists no locally confined id under two names that are to be shown. -/
def ListsConfinedOnce (pattern : PreventSyncPattern) (m : LocalFolderManifest)
    (remote : FolderManifest) : Prop :=
  ∀ own id first second, m.children.lookup own = some id → pattern.isMatch own = true →
    remote.children.lookup first = some id → pattern.isMatch first = false →
    remote.children.lookup second = some id → pattern.isMatch second = false → first = second

section Returns
variable {pattern : PreventSyncPattern} {m : LocalFolderManifest} {remote : FolderManifest}
  (confined : ConfinedFor pattern m)
include confined

theorem matches_of_localPoint {name : EntryName} {id : VlobID}
    (found : m.children.lookup name = some id) (point : id ∈ m.localConfinementPoints) :
    pattern.isMatch name = true := by
  rw [confined.localPoints, mem_valuesAt] at point
  obtain ⟨other, there, matching⟩ := point
  rw [← confined.children other name id there found]
  exact matching

theorem restoresOnce_remote_iff :
    RestoresOnce pattern remote.children remote.children m ↔ ListsConfinedOnce pattern m remote := by
  have shown : ∀ name id, Shown pattern remote.children remote.children name id ↔
      remote.children.lookup name = some id ∧ pattern.isMatch name = false := by
    intro name id
    unfold Shown
    apply and_congr_right
    intro found
    simp [found]
  constructor
  · intro once own id first second there matching inFirst free inSecond free'
    by_contra differ
    have point : id ∈ m.localConfinementPoints := by
      rw [confined.localPoints]
      exact mem_valuesAt.mpr ⟨own, there, matching⟩
    have apart : ∀ name, pattern.isMatch name = false → name ≠ own := by
      intro name shownName same
      rw [same, matching] at shownName
      cases shownName
    obtain ⟨other, held, why⟩ := once own id first second there point
      ((shown first id).mpr ⟨inFirst, free⟩) ((shown second id).mpr ⟨inSecond, free'⟩) differ
      (apart first free) (apart second free')
    have matched : pattern.isMatch second = true := by
      rcases why with confinedToo | hidden
      · exact matches_of_localPoint confined held confinedToo
      · exact hidden.2.1
    rw [free'] at matched
    cases matched
  · intro once own id first second there point inFirst inSecond differ _ _
    rw [shown] at inFirst inSecond
    exact absurd (once own id first second there (matches_of_localPoint confined there point)
      inFirst.1 inFirst.2 inSecond.1 inSecond.2) differ

theorem fromRemote_returns_iff (timestamp : DateTime) :
    (∀ orders, ∃ r, fromRemoteWithRestoredLocalConfinementPoints orders remote pattern m timestamp =
      .ok r) ↔ ListsConfinedOnce pattern m remote := by
  rw [← restoresOnce_remote_iff confined]
  exact applyConfinement_ok_iff timestamp confined.children

theorem mergeUnconfined_returns_iff (nfc : List Char → List Char) (childrenOrders : ChildrenOrders)
    (orders : FolderOrders) (timestamp : DateTime) :
    (∃ r, (do
      let unconfined ← mergeUnconfined nfc childrenOrders timestamp (removeConfinement orders m)
        (UnconfinedLocalFolderManifest.fromRemote remote)
      unconfined.applyConfinement orders m pattern timestamp) = .ok r) ↔
    ∃ children, mergeChildren nfc childrenOrders m.base.children (removeConfinement orders m).children
      remote.children = .ok children := by
  constructor
  · intro returns
    obtain ⟨r, returned⟩ := returns
    obtain ⟨unconfined, merging, -⟩ := bind_eq_ok.mp returned
    obtain ⟨merged, mergedChildren, -⟩ := bind_eq_ok.mp merging
    exact ⟨merged, mergedChildren⟩
  · intro built
    obtain ⟨merged, mergedChildren⟩ := built
    have merging : ∃ unconfined, mergeUnconfined nfc childrenOrders timestamp
        (removeConfinement orders m) (UnconfinedLocalFolderManifest.fromRemote remote) =
        .ok unconfined := ⟨_, bind_eq_ok.mpr ⟨merged, mergedChildren, rfl⟩⟩
    obtain ⟨unconfined, merging⟩ := merging
    have distinct := (mergeUnconfined_sound timestamp merging).2.1
    obtain ⟨r, run⟩ := (applyConfinement_ok_iff timestamp confined.children).mpr
      (restoresOnce_of_injective distinct) orders
    exact ⟨r, bind_eq_ok.mpr ⟨unconfined, merging, run⟩⟩

end Returns

/-- The entries that the local manifest would upload. -/
def Uploaded (m : LocalFolderManifest) (name : EntryName) (id : VlobID) : Prop :=
  Hidden m name id ∨ (¬ (∃ other, Hidden m name other) ∧ Unconfined m name id)

/-- Whichever name is kept of an id that is listed twice, and in whichever order, the local names that
    meet one in use have cuts between characters at the counts that are tried for them. -/
def MergedNamesFit (nfc : List Char → List Char) (m : LocalFolderManifest)
    (remote : FolderManifest) : Prop :=
  ∀ (base mine theirs : Children) (order : HashOrder EntryName),
    OneOfEach (fun name id => m.base.children.lookup name = some id) base →
    OneOfEach (Uploaded m) mine →
    OneOfEach (fun name id => remote.children.lookup name = some id) theirs →
    NamesFit nfc (remoteNames base mine theirs) (order.list (localNames base mine theirs))

section Names
variable {nfc : List Char → List Char} {m : LocalFolderManifest} {remote : FolderManifest}

theorem uploaded_normalized
    (normalized : ∀ name ∈ m.children.keys ∪ m.base.children.keys, nfc name.chars = name.chars)
    (orders : FolderOrders) :
    ∀ name ∈ (removeConfinement orders m).children.keys, nfc name.chars = name.chars := by
  intro name member
  apply normalized name
  obtain ⟨id, listed⟩ := mem_keys_iff.mp member
  rcases (lookup_removeConfinement orders).mp listed with hidden | ⟨-, seen⟩
  · exact Finset.mem_union_right _ (mem_keys_iff.mpr ⟨id, hidden.1⟩)
  · exact Finset.mem_union_left _ (mem_keys_iff.mpr ⟨id, seen.1⟩)

theorem mergeChildren_returns_iff (laws : NormalizationFormC nfc)
    (normalized : ∀ name ∈ m.children.keys ∪ m.base.children.keys, nfc name.chars = name.chars) :
    (∀ childrenOrders orders, ∃ children, mergeChildren nfc childrenOrders m.base.children
      (removeConfinement orders m).children remote.children = .ok children) ↔
    MergedNamesFit nfc m remote := by
  have uploaded : ∀ orders, (fun name id =>
      (removeConfinement orders m).children.lookup name = some id) = Uploaded m := by
    intro orders
    funext name id
    exact propext (lookup_removeConfinement orders)
  constructor
  · intro returns base mine theirs order isBase isMine isTheirs
    rw [← uploaded someFolderOrders] at isMine
    obtain ⟨baseOrder, rfl⟩ := isBase.exists_order
    obtain ⟨localOrder, rfl⟩ := isMine.exists_order
    obtain ⟨remoteOrder, rfl⟩ := isTheirs.exists_order
    have ends := @mergeChildren_ends_iff nfc laws ⟨baseOrder, localOrder, remoteOrder, order, .any _⟩
      m.base.children (removeConfinement someFolderOrders m).children remote.children
      (uploaded_normalized normalized someFolderOrders)
    exact ends.mp (returns _ someFolderOrders)
  · intro fit childrenOrders orders
    rw [mergeChildren_ends_iff laws (uploaded_normalized normalized orders)]
    apply fit
    · exact oneOfEach_oneKeyEach _ _
    · rw [← uploaded orders]
      exact oneOfEach_oneKeyEach _ _
    · exact oneOfEach_oneKeyEach _ _

end Names

section Branches
variable {nfc : List Char → List Char} {childrenOrders : ChildrenOrders} {orders : FolderOrders}
  {localAuthor : DeviceID} {timestamp : DateTime} {pattern : PreventSyncPattern}
  {m : LocalFolderManifest} {remote : FolderManifest}
  (sameId : m.base.id = remote.id) (newer : m.base.version < remote.version)
include sameId newer

theorem merge_unchanged (unflagged : m.needSync = false) :
    mergeLocalFolderManifest nfc childrenOrders orders localAuthor timestamp pattern m remote =
      (fromRemoteWithRestoredLocalConfinementPoints orders remote pattern m timestamp >>= fun r =>
        .ok (.merged r)) := by
  have checked : assert (m.base.id == remote.id) "local.base.id == remote.id" = .ok () := by
    simp [assert, sameId]
  unfold mergeLocalFolderManifest
  rw [checked, ok_bind, if_neg (Nat.not_le.mpr newer)]
  exact if_pos unflagged

theorem merge_own (flagged : ¬ m.needSync = false)
    (own : remote.author = localAuthor ∧ m.speculative = false) :
    mergeLocalFolderManifest nfc childrenOrders orders localAuthor timestamp pattern m remote =
      (({ removeConfinement orders m with base := remote } :
        UnconfinedLocalFolderManifest).applyConfinement orders m pattern timestamp >>= fun r =>
          .ok (.merged r)) := by
  have checked : assert (m.base.id == remote.id) "local.base.id == remote.id" = .ok () := by
    simp [assert, sameId]
  unfold mergeLocalFolderManifest
  rw [checked, ok_bind, if_neg (Nat.not_le.mpr newer)]
  exact (if_neg flagged).trans (if_pos own)

theorem merge_both (flagged : ¬ m.needSync = false)
    (other : ¬ (remote.author = localAuthor ∧ m.speculative = false)) :
    mergeLocalFolderManifest nfc childrenOrders orders localAuthor timestamp pattern m remote =
      ((do
        let unconfined ← mergeUnconfined nfc childrenOrders timestamp (removeConfinement orders m)
          (UnconfinedLocalFolderManifest.fromRemote remote)
        unconfined.applyConfinement orders m pattern timestamp) >>= fun r => .ok (.merged r)) := by
  have checked : assert (m.base.id == remote.id) "local.base.id == remote.id" = .ok () := by
    simp [assert, sameId]
  unfold mergeLocalFolderManifest
  rw [checked, ok_bind, if_neg (Nat.not_le.mpr newer), bind_assoc]
  exact (if_neg flagged).trans (if_neg other)

end Branches

theorem returns_of_bind {α β : Type} {run : Checked α} {f : α → β} :
    (∃ r, (run >>= fun a => .ok (f a)) = .ok r) ↔ ∃ a, run = .ok a := by
  constructor
  · intro returns
    obtain ⟨r, returned⟩ := returns
    obtain ⟨a, ran, -⟩ := bind_eq_ok.mp returned
    exact ⟨a, ran⟩
  · intro ran
    obtain ⟨a, ran⟩ := ran
    exact ⟨f a, bind_eq_ok.mpr ⟨a, ran, rfl⟩⟩

theorem removeConfinement_order (orders orders' : FolderOrders) (m : LocalFolderManifest) :
    removeConfinement orders m = removeConfinement orders' m := by
  have children : (removeConfinement orders m).children = (removeConfinement orders' m).children :=
    removeConfinement_congr rfl rfl fun _ _ => Iff.rfl
  unfold removeConfinement at children ⊢
  simp only [UnconfinedLocalFolderManifest.mk.injEq, true_and, and_true]
  exact children

theorem mergeLocalFolderManifest_returns_iff {nfc : List Char → List Char}
    (laws : NormalizationFormC nfc) (localAuthor : DeviceID)
    (timestamp : DateTime) {pattern : PreventSyncPattern} {m : LocalFolderManifest}
    {remote : FolderManifest} (confined : ConfinedFor pattern m)
    (normalized : ∀ name ∈ m.children.keys ∪ m.base.children.keys, nfc name.chars = name.chars)
    (sameId : m.base.id = remote.id) (newer : m.base.version < remote.version) :
    (∀ childrenOrders orders, ∃ outcome, mergeLocalFolderManifest nfc childrenOrders orders
      localAuthor timestamp pattern m remote = .ok outcome) ↔
    (m.needSync = false → ListsConfinedOnce pattern m remote) ∧
    (m.needSync = true → remote.author = localAuthor ∧ m.speculative = false →
      ∀ orders, RestoresOnce pattern remote.children (removeConfinement orders m).children m) ∧
    (m.needSync = true → ¬ (remote.author = localAuthor ∧ m.speculative = false) →
      MergedNamesFit nfc m remote) := by
  by_cases flagged : m.needSync = false
  · -- nothing has changed here: the remote is taken
    simp only [merge_unchanged sameId newer flagged, returns_of_bind]
    rw [← fromRemote_returns_iff confined timestamp]
    constructor
    · intro returns
      refine ⟨fun _ => returns someOrders, fun changed => ?_, fun changed => ?_⟩
      · simp [flagged] at changed
      · simp [flagged] at changed
    · exact fun once _ => once.1 flagged
  · have changed : m.needSync = true := by simpa using flagged
    by_cases own : remote.author = localAuthor ∧ m.speculative = false
    · -- the remote changes are ours: the local children stay
      simp only [merge_own sameId newer flagged own, returns_of_bind]
      have applies : ∀ orders', (∀ orders, ∃ r, ({ removeConfinement orders' m with base := remote } :
          UnconfinedLocalFolderManifest).applyConfinement orders m pattern timestamp = .ok r) ↔
          RestoresOnce pattern remote.children (removeConfinement orders' m).children m :=
        fun orders' => applyConfinement_ok_iff timestamp confined.children
      constructor
      · intro returns
        refine ⟨fun unflagged => absurd unflagged flagged, fun _ _ orders' => ?_,
          fun _ other => absurd own other⟩
        apply (applies orders').mp
        intro orders
        rw [removeConfinement_order orders' orders m]
        exact returns someOrders orders
      · intro once _ orders
        exact (applies orders).mpr (once.2.1 changed own orders) orders
    · simp only [merge_both sameId newer flagged own, returns_of_bind,
        mergeUnconfined_returns_iff confined, mergeChildren_returns_iff laws normalized]
      constructor
      · exact fun built => ⟨fun unflagged => absurd unflagged flagged,
          fun _ mine => absurd mine own, fun _ _ => built⟩
      · exact fun built => built.2.2 changed own

/-- A folder is taken from its remote exactly when no locally confined id comes under two shown
    names, and is merged exactly when, in addition, the names that change on the way can be made. -/
theorem folder_merge_returns_iff {nfc : List Char → List Char} (laws : NormalizationFormC nfc)
    (localAuthor : DeviceID) (timestamp : DateTime) (pattern : PreventSyncPattern)
    (m : LocalFolderManifest) (remote : FolderManifest) (confined : ConfinedFor pattern m)
    (normalized : ∀ name ∈ m.children.keys ∪ m.base.children.keys, nfc name.chars = name.chars)
    (sameId : m.base.id = remote.id) (newer : m.base.version < remote.version) :
    ((∀ orders, ∃ r, fromRemoteWithRestoredLocalConfinementPoints orders remote pattern m timestamp =
        .ok r) ↔ ListsConfinedOnce pattern m remote) ∧
    ((∀ childrenOrders orders, ∃ outcome, mergeLocalFolderManifest nfc childrenOrders orders
        localAuthor timestamp pattern m remote = .ok outcome) ↔
      (m.needSync = false → ListsConfinedOnce pattern m remote) ∧
      (m.needSync = true → remote.author = localAuthor ∧ m.speculative = false →
        ∀ orders, RestoresOnce pattern remote.children (removeConfinement orders m).children m) ∧
      (m.needSync = true → ¬ (remote.author = localAuthor ∧ m.speculative = false) →
        MergedNamesFit nfc m remote)) :=
  ⟨fromRemote_returns_iff confined timestamp,
    mergeLocalFolderManifest_returns_iff laws localAuthor timestamp confined normalized sameId newer⟩

theorem WellConfined.confinedFor {pattern : PreventSyncPattern} {m : LocalFolderManifest}
    (confined : WellConfined pattern m) : ConfinedFor pattern m :=
  ⟨confined.children, confined.localPoints, confined.remotePoints⟩

theorem folder_merge_returns_iff_emptyFolder :
    (∀ orders, ∃ r, fromRemoteWithRestoredLocalConfinementPoints orders duplicatedFolder patternB
      emptyFolder 1 = .ok r) ∧
    ∀ childrenOrders orders, ∃ outcome, mergeLocalFolderManifest id childrenOrders orders ⟨0⟩ 1
      patternB emptyFolder duplicatedFolder = .ok outcome := by
  have all := folder_merge_returns_iff normalizationFormC_id ⟨0⟩ 1 patternB emptyFolder
    duplicatedFolder (fromRemote_wellConfined patternB injective_empty).confinedFor (fun _ _ => rfl) rfl
    (by decide)
  have once : ListsConfinedOnce patternB emptyFolder duplicatedFolder := by
    intro own _ first second there
    cases there
  refine ⟨all.1.mpr once, all.2.mpr ⟨fun _ => once, fun changed => ?_, fun changed => ?_⟩⟩
  · cases changed
  · cases changed

def entryC : EntryName := ⟨['c'], by decide⟩

def confinedB : LocalFolderManifest :=
  { emptyFolder with
    children := Finmap.singleton entryB ⟨1⟩
    localConfinementPoints := HashMap.valuesAt patternB.isMatch (Finmap.singleton entryB ⟨1⟩) }

def listedTwice : FolderManifest :=
  folderOf 2 ((Finmap.singleton entryA ⟨1⟩).insert entryC ⟨1⟩)

theorem confinedB_not_once : ¬ ListsConfinedOnce patternB confinedB listedTwice := by
  intro once
  have same := once entryB ⟨1⟩ entryA entryC (by rfl) (by decide) (by rfl) (by decide) (by rfl)
    (by decide)
  exact absurd same (by decide)

theorem listedTwice_panics : ConfinedFor patternB confinedB ∧
    (¬ ∀ orders, ∃ r, fromRemoteWithRestoredLocalConfinementPoints orders listedTwice patternB
      confinedB 1 = .ok r) ∧
    ¬ ∀ childrenOrders orders, ∃ outcome, mergeLocalFolderManifest id childrenOrders orders ⟨0⟩ 1
      patternB confinedB listedTwice = .ok outcome := by
  have confined : ConfinedFor patternB confinedB := ⟨injective_singleton, rfl, rfl⟩
  have sameId : confinedB.base.id = listedTwice.id := rfl
  refine ⟨confined, fun returns => ?_, fun returns => ?_⟩
  · exact confinedB_not_once ((fromRemote_returns_iff confined 1).mp returns)
  · exact confinedB_not_once
      (((mergeLocalFolderManifest_returns_iff normalizationFormC_id ⟨0⟩ 1 confined (fun _ _ => rfl)
        sameId (by decide)).mp returns).1 rfl)

end ParsecCloud

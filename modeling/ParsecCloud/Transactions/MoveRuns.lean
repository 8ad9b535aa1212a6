import ParsecCloud.Folder.Confinement
import ParsecCloud.Transactions.MoveTree

/- What a call that moves an entry does to the tree. -/
namespace ParsecCloud
open Rust HashMap Relation

section Runs
variable {context : MoveContext} {store store' : WorkspaceStore}

/-- The entries that are reached from the root form a tree, and the root is its own parent. -/
structure WorkspaceTree (context : MoveContext) (store : WorkspaceStore) : Prop where
  realm : store.realmId = store.cache.manifests.rootManifestId
  rootParent : store.cache.manifests.rootManifest.parent = store.cache.manifests.rootManifestId
  tree : AgreeingTree (store.view context) store.cache.manifests.rootManifestId

theorem WorkspaceTree.parentAt_root (state : WorkspaceTree context store) :
    parentAt (store.view context) store.cache.manifests.rootManifestId =
      some store.cache.manifests.rootManifestId := by
  rw [parentAt, view_of_cached (ManifestsHashMap.get_root _)]
  exact congrArg some state.rootParent

theorem lookup_renameChanges (srcName dstName name : EntryName) (childId : VlobID)
    (exchange : Option VlobID) :
    (renameChanges srcName dstName childId exchange).lookup name =
      if name = dstName then some (some childId) else if name = srcName then some exchange else none := by
  rw [renameChanges, lookup_insert_ite, lookup_singleton_ite]

theorem renameChanges_fit {children : Children} {srcName dstName : EntryName} {childId : VlobID}
    {exchange : Option VlobID} (injective : Injective children)
    (listed : children.lookup srcName = some childId)
    (exchanged : ∀ d, exchange = some d → children.lookup dstName = some d) :
    ChangesFit (renameChanges srcName dstName childId exchange) children where
  removesExisting name removed := by
    rw [lookup_renameChanges] at removed
    split at removed
    · cases removed
    · split at removed
      · rename_i isSrc
        rw [isSrc]
        exact mem_keys_iff.mpr ⟨childId, listed⟩
      · cases removed
  addsUnkept name other id added kept := by
    rw [mem_keys_iff]
    simp only [lookup_renameChanges] at added ⊢
    split at added
    · cases added
      rw [injective _ _ _ kept listed]
      split
      · exact ⟨_, rfl⟩
      · exact ⟨_, if_pos rfl⟩
    · split at added
      · have isDst := exchanged id (Option.some.inj added)
        rw [injective _ _ _ kept isDst]
        exact ⟨_, if_pos rfl⟩
      · cases added

theorem evolved_child {orders : FolderOrders} {data : ChildrenChanges} {pattern : PreventSyncPattern}
    {now : DateTime} {folder evolved : LocalFolderManifest} (injective : Injective folder.children)
    (fits : ChangesFit data folder.children)
    (run : folder.evolveChildrenAndMarkUpdated orders data pattern now = .ok evolved) :
    evolved.base = folder.base ∧ evolved.parent = folder.parent ∧
      ∀ name, evolved.children.lookup name = (data.lookup name).getD (folder.children.lookup name) := by
  obtain ⟨again, runAgain, spec⟩ := evolve_spec orders pattern now injective fits
  rw [run] at runAgain
  cases runAgain
  exact ⟨spec.base, spec.parent, spec.children⟩

theorem moveEntrySameParent_spec {parent : LocalFolderManifest} {srcName dstName : EntryName}
    {mode : MoveEntryMode} {result : Except WorkspaceMoveEntryError Unit}
    (run : moveEntrySameParent context store parent srcName dstName mode = .ok (result, store')) :
    (∃ error, result = .error error) ∧ Populated context store store' ∨
      result = .ok () ∧ ∃ childId child exchange populated evolved,
        parent.children.lookup srcName = some childId ∧
        store.view context childId = some child ∧ child.parent = parent.base.id ∧
        (exchange = if mode = .exchange then parent.children.lookup dstName else none) ∧
        (mode = .exchange → exchange ≠ none) ∧
        Populated context store populated ∧
        parent.evolveChildrenAndMarkUpdated context.srcOrders
          (renameChanges srcName dstName childId exchange) populated.preventSyncPattern context.now =
            .ok evolved ∧
        populated.updateFolderManifest evolved none = .ok store' := by
  unfold moveEntrySameParent at run
  split at run
  · cases run
    exact Or.inl ⟨⟨_, rfl⟩, .refl context _⟩
  · rename_i childId listed
    obtain ⟨outcome, ensured, run⟩ := bind_eq_ok.mp run
    split at run
    · cases run
      exact Or.inl ⟨⟨_, rfl⟩, .refl context _⟩
    · cases run
      exact Or.inl ⟨⟨_, rfl⟩, (ensure_spec ensured).1⟩
    · rename_i child store₁
      obtain ⟨populated₁, found⟩ := ensure_spec ensured
      obtain ⟨inView, isParent⟩ := found child rfl
      obtain ⟨outcome, exchanges, run⟩ := bind_eq_ok.mp run
      split at run
      · cases run
        exact Or.inl ⟨⟨_, rfl⟩, populated₁.trans (exchangeSrcChildId_spec exchanges).1⟩
      · rename_i exchange store₂
        obtain ⟨populated₂, isExchange⟩ := exchangeSrcChildId_spec exchanges
        obtain ⟨evolved, evolves, run⟩ := bind_eq_ok.mp run
        split at run
        · cases run
          exact Or.inl ⟨⟨_, rfl⟩, populated₁.trans populated₂⟩
        · obtain ⟨written, writes, done⟩ := bind_eq_ok.mp run
          cases done
          refine Or.inr ⟨rfl, childId, child, exchange, store₂, evolved, listed, inView, isParent,
            (isExchange exchange rfl).1, (isExchange exchange rfl).2, populated₁.trans populated₂,
            evolves, writes⟩

theorem moveEntryDifferentParents_spec {updater : ReparentingUpdater} {srcName dstName : EntryName}
    {mode : MoveEntryMode} {result : Except WorkspaceMoveEntryError Unit}
    (run : moveEntryDifferentParents context store updater srcName dstName mode =
      .ok (result, store')) :
    (∃ error, result = .error error) ∧ Populated context store store' ∨
      result = .ok () ∧ ∃ exchange dstChild populated srcParent dstParent,
        (exchange = if mode = .exchange then updater.dstParentManifest.children.lookup dstName
          else none) ∧
        exchangedChild context updater exchange = .ok dstChild ∧
        Populated context store populated ∧
        updater.srcParentManifest.evolveChildrenAndMarkUpdated context.srcOrders
          (Finmap.singleton srcName exchange) populated.preventSyncPattern context.now =
            .ok srcParent ∧
        updater.dstParentManifest.evolveChildrenAndMarkUpdated context.dstOrders
          (Finmap.singleton dstName (some updater.srcChildManifest.id)) populated.preventSyncPattern
          context.now = .ok dstParent ∧
        ReparentingUpdater.updateManifests populated
          ⟨srcParent, updater.srcChildManifest.reparent updater.dstParentManifest.base.id context.now,
            dstParent, dstChild⟩ = .ok store' := by
  unfold moveEntryDifferentParents at run
  obtain ⟨outcome, exchanges, run⟩ := bind_eq_ok.mp run
  split at run
  · cases run
    exact Or.inl ⟨⟨_, rfl⟩, (exchangeSrcChildId_spec exchanges).1⟩
  · rename_i exchange store₁
    obtain ⟨populated, isExchange⟩ := exchangeSrcChildId_spec exchanges
    obtain ⟨dstChild, exchanged, run⟩ := bind_eq_ok.mp run
    obtain ⟨srcParent, srcEvolves, run⟩ := bind_eq_ok.mp run
    obtain ⟨dstParent, dstEvolves, run⟩ := bind_eq_ok.mp run
    split at run
    · cases run
      exact Or.inl ⟨⟨_, rfl⟩, populated⟩
    · obtain ⟨written, writes, done⟩ := bind_eq_ok.mp run
      cases done
      exact Or.inr ⟨rfl, exchange, dstChild, store₁, srcParent, dstParent,
        (isExchange exchange rfl).1, exchanged, populated, srcEvolves, dstEvolves, writes⟩

theorem childAt_of_folder {view : View} {id : VlobID} {folder : LocalFolderManifest}
    (isFolder : view id = some (.folder folder)) (name : EntryName) :
    childAt view id name = folder.children.lookup name := by
  rw [childAt, isFolder]

theorem childAt_congr {view view' : View} {id : VlobID} (same : view' id = view id)
    (name : EntryName) : childAt view' id name = childAt view id name := by
  rw [childAt, same]
  rfl

theorem lastWritten_one (manifest : LocalChildManifest) (id : VlobID) :
    lastWritten [manifest] id = if id = manifest.id then some manifest else none := by
  rw [lastWritten_cons]
  rfl

theorem renaming_of_run {path : List EntryName} {srcName dstName : EntryName}
    {parent evolved : LocalFolderManifest} {childId : VlobID} {child : LocalChildManifest}
    {exchange : Option VlobID} {populated : WorkspaceStore} (state : WorkspaceTree context store)
    (parentAt' : At (store.view context) store.cache.manifests.rootManifestId path parent.base.id)
    (parentView : store.view context parent.base.id = some (.folder parent))
    (listed : parent.children.lookup srcName = some childId)
    (childView : store.view context childId = some child) (isParent : child.parent = parent.base.id)
    (exchanged : ∀ d, exchange = some d → parent.children.lookup dstName = some d)
    (before : Populated context store populated)
    (evolves : parent.evolveChildrenAndMarkUpdated context.srcOrders
      (renameChanges srcName dstName childId exchange) populated.preventSyncPattern context.now =
        .ok evolved)
    (written : populated.updateFolderManifest evolved none = .ok store') :
    Renaming (store.view context) (store'.view context) store.cache.manifests.rootManifestId path
      srcName dstName parent.base.id childId exchange := by
  have injective := state.tree.listedOnce _ _ parentAt'.above parentView
  obtain ⟨sameBase, sameParent, children⟩ :=
    evolved_child injective (renameChanges_fit injective listed exchanged) evolves
  have wrote : Wrote [.folder evolved] populated store' := write_wrote (fun _ => rfl) written
  have after : ∀ id, store'.view context id =
      if id = parent.base.id then some (.folder evolved) else store.view context id := by
    intro id
    rw [wrote.view, lastWritten_one, before.view, LocalChildManifest.folder_id, sameBase]
    split <;> rfl
  refine ⟨state.tree, state.parentAt_root, parentAt', ?_, ?_, ?_, ?_, ?_⟩
  · rw [childAt_of_folder parentView]
    exact listed
  · rw [parentAt, childView]
    exact congrArg some isParent
  · intro d isExchange
    rw [childAt_of_folder parentView]
    exact exchanged d isExchange
  · intro q name
    by_cases here : q = parent.base.id
    · have isEvolved := after q
      rw [if_pos here] at isEvolved
      rw [childAt_of_folder isEvolved, children, lookup_renameChanges]
      simp only [here, true_and, childAt_of_folder parentView]
      split
      · rfl
      · split <;> rfl
    · rw [childAt_congr ((after q).trans (if_neg here))]
      simp [here]
  · intro id
    rw [parentAt, after]
    split
    · rename_i here
      rw [here, parentAt, parentView]
      exact congrArg some sameParent
    · rfl

@[simp] theorem reparent_id (manifest : LocalChildManifest) (parentId : VlobID) (now : DateTime) :
    (manifest.reparent parentId now).id = manifest.id := by
  cases manifest <;> rfl

@[simp] theorem reparent_parent (manifest : LocalChildManifest) (parentId : VlobID) (now : DateTime) :
    (manifest.reparent parentId now).parent = parentId := by
  cases manifest <;> rfl

theorem childAt_reparent {view view' : View} {id parentId : VlobID} {manifest : LocalChildManifest}
    {now : DateTime} (found : view id = some manifest)
    (after : view' id = some (manifest.reparent parentId now)) (name : EntryName) :
    childAt view' id name = childAt view id name := by
  rw [childAt, childAt, found, after]
  cases manifest <;> rfl

/-- The entry that takes the place of the source. -/
def exchangeOf (mode : MoveEntryMode) (updater : ReparentingUpdater) (dstName : EntryName) :
    Option VlobID :=
  if mode = .exchange then updater.dstParentManifest.children.lookup dstName else none

/-- What the updater of a reparenting has been given. -/
structure Given (context : MoveContext) (store : WorkspaceStore) (srcPath : List EntryName)
    (srcName : EntryName) (dstPath : List EntryName) (dstName : EntryName) (mode : MoveEntryMode)
    (updater : ReparentingUpdater) : Prop where
  srcAt : At (store.view context) store.cache.manifests.rootManifestId srcPath
    updater.srcParentManifest.base.id
  dstAt : At (store.view context) store.cache.manifests.rootManifestId dstPath
    updater.dstParentManifest.base.id
  srcView : store.view context updater.srcParentManifest.base.id =
    some (.folder updater.srcParentManifest)
  dstView : store.view context updater.dstParentManifest.base.id =
    some (.folder updater.dstParentManifest)
  childListed : updater.srcParentManifest.children.lookup srcName = some updater.srcChildManifest.id
  childView : store.view context updater.srcChildManifest.id = some updater.srcChildManifest
  childParent : updater.srcChildManifest.parent = updater.srcParentManifest.base.id
  noDstChild : mode ≠ .exchange → updater.dstChildManifest = none
  dstChild : mode = .exchange → ∃ child, updater.dstChildManifest = some child ∧
    updater.dstParentManifest.children.lookup dstName = some child.id ∧
    store.view context child.id = some child ∧ child.parent = updater.dstParentManifest.base.id
  locked : updater.Locked

theorem Given.exchangedChild_eq {srcPath dstPath : List EntryName} {srcName dstName : EntryName}
    {mode : MoveEntryMode} {updater : ReparentingUpdater} {dstChild : Option LocalChildManifest}
    (given : Given context store srcPath srcName dstPath dstName mode updater)
    (exchanged : exchangedChild context updater (exchangeOf mode updater dstName) = .ok dstChild) :
    dstChild = updater.dstChildManifest.map fun child =>
      child.reparent updater.srcParentManifest.base.id context.now := by
  by_cases isExchange : mode = .exchange
  · obtain ⟨child, isChild, listed, -, -⟩ := given.dstChild isExchange
    rw [exchangeOf, if_pos isExchange, listed, exchangedChild, isChild] at exchanged
    cases exchanged
    rw [isChild]
    rfl
  · rw [exchangeOf, if_neg isExchange, exchangedChild, given.noDstChild isExchange] at exchanged
    cases exchanged
    rw [given.noDstChild isExchange]
    rfl

section Reparenting
variable {srcPath dstPath : List EntryName} {srcName dstName : EntryName} {mode : MoveEntryMode}
  {updater : ReparentingUpdater} {srcParent dstParent : LocalFolderManifest}
  {dstChild : Option LocalChildManifest} {populated : WorkspaceStore}

theorem Given.written (given : Given context store srcPath srcName dstPath dstName mode updater)
    (srcBase : srcParent.base = updater.srcParentManifest.base)
    (dstBase : dstParent.base = updater.dstParentManifest.base)
    (isDstChild : dstChild = updater.dstChildManifest.map fun child =>
      child.reparent updater.srcParentManifest.base.id context.now)
    (before : Populated context store populated)
    (written : ReparentingUpdater.updateManifests populated
      ⟨srcParent, updater.srcChildManifest.reparent updater.dstParentManifest.base.id context.now,
        dstParent, dstChild⟩ = .ok store') :
    store'.view context updater.srcParentManifest.base.id = some (.folder srcParent) ∧
      store'.view context updater.dstParentManifest.base.id = some (.folder dstParent) ∧
      store'.view context updater.srcChildManifest.id =
        some (updater.srcChildManifest.reparent updater.dstParentManifest.base.id context.now) ∧
      (∀ child, updater.dstChildManifest = some child → store'.view context child.id =
        some (child.reparent updater.srcParentManifest.base.id context.now)) ∧
      ∀ id, id ≠ updater.srcParentManifest.base.id → id ≠ updater.dstParentManifest.base.id →
        id ≠ updater.srcChildManifest.id → (∀ child, updater.dstChildManifest = some child →
          id ≠ child.id) → store'.view context id = store.view context id := by
  have ids : ([.folder srcParent,
      updater.srcChildManifest.reparent updater.dstParentManifest.base.id context.now,
      .folder dstParent] ++ dstChild.toList).map LocalChildManifest.id =
      [updater.srcParentManifest.base.id, updater.srcChildManifest.id,
        updater.dstParentManifest.base.id] ++
        updater.dstChildManifest.toList.map LocalChildManifest.id := by
    rw [isDstChild]
    cases updater.dstChildManifest with
    | none => simp [srcBase, dstBase]
    | some child => simp [srcBase, dstBase]
  have locked := given.locked
  rw [ReparentingUpdater.Locked, ← ids] at locked
  have wrote := ReparentingUpdater.updateManifests_wrote (by
    rw [List.map_append] at locked
    exact locked) written
  have member : ∀ manifest, manifest ∈ [LocalChildManifest.folder srcParent,
      updater.srcChildManifest.reparent updater.dstParentManifest.base.id context.now,
      .folder dstParent] ++ dstChild.toList →
      store'.view context manifest.id = some manifest := by
    intro manifest inside
    rw [wrote.view, lastWritten_of_mem locked inside]
    rfl
  refine ⟨?_, ?_, ?_, ?_, ?_⟩
  · have found := member (.folder srcParent) (by simp)
    rw [LocalChildManifest.folder_id, srcBase] at found
    exact found
  · have found := member (.folder dstParent) (by simp)
    rw [LocalChildManifest.folder_id, dstBase] at found
    exact found
  · have found := member (updater.srcChildManifest.reparent
      updater.dstParentManifest.base.id context.now) (by simp)
    rw [reparent_id] at found
    exact found
  · intro child isChild
    have found := member (child.reparent updater.srcParentManifest.base.id context.now) (by
      rw [isDstChild, isChild]
      simp)
    rw [reparent_id] at found
    exact found
  · intro id notSrc notDst notChild notDstChild
    rw [wrote.view, lastWritten_eq_none, before.view]
    · rfl
    · rw [ids]
      simp only [List.mem_append, List.mem_cons, List.not_mem_nil, List.mem_map,
        Option.mem_toList, not_or, not_exists, not_and]
      exact ⟨⟨notSrc, notChild, notDst, not_false⟩,
        fun child isChild same => notDstChild child isChild same.symm⟩

namespace Given
variable (given : Given context store srcPath srcName dstPath dstName mode updater)
include given

theorem distinct : updater.srcChildManifest.id ≠ updater.srcParentManifest.base.id ∧
    updater.srcParentManifest.base.id ≠ updater.dstParentManifest.base.id ∧
    updater.srcChildManifest.id ≠ updater.dstParentManifest.base.id := by
  have locked := given.locked
  simp only [ReparentingUpdater.Locked, List.cons_append, List.nodup_cons, List.mem_cons, not_or]
    at locked
  exact ⟨Ne.symm locked.1.1, locked.1.2.1, locked.2.1.1⟩

theorem exchanges {d : VlobID} (isExchange : exchangeOf mode updater dstName = some d) :
    ∃ child, updater.dstChildManifest = some child ∧ d = child.id ∧
      updater.dstParentManifest.children.lookup dstName = some d ∧
      store.view context d = some child ∧ child.parent = updater.dstParentManifest.base.id ∧
      d ≠ updater.srcChildManifest.id ∧ d ≠ updater.srcParentManifest.base.id ∧
      d ≠ updater.dstParentManifest.base.id := by
  unfold exchangeOf at isExchange
  split at isExchange
  · rename_i mode
    obtain ⟨child, isChild, listed, found, isParent⟩ := given.dstChild mode
    rw [listed] at isExchange
    cases isExchange
    have locked := given.locked
    simp only [ReparentingUpdater.Locked, isChild, Option.toList_some, List.map_cons, List.map_nil,
      List.cons_append, List.nil_append, List.nodup_cons, List.mem_cons, List.not_mem_nil,
      or_false, not_or] at locked
    exact ⟨child, isChild, rfl, listed, found, isParent, Ne.symm locked.2.1.2,
      Ne.symm locked.1.2.2, Ne.symm locked.2.2.1⟩
  · cases isExchange

theorem exchangeOf_child {child : LocalChildManifest}
    (isChild : updater.dstChildManifest = some child) :
    exchangeOf mode updater dstName = some child.id := by
  have isExchange : mode = .exchange := by
    by_contra replaces
    rw [given.noDstChild replaces] at isChild
    cases isChild
  obtain ⟨again, isAgain, listed, -, -⟩ := given.dstChild isExchange
  rw [isChild] at isAgain
  cases isAgain
  rw [exchangeOf, if_pos isExchange, listed]

variable (state : WorkspaceTree context store)
include state

/-- The source parent has the source child under its name only, and not the one at the
    destination. -/
theorem srcFits : ChangesFit (Finmap.singleton srcName (exchangeOf mode updater dstName))
    updater.srcParentManifest.children := by
  constructor
  · intro name removed
    rw [lookup_singleton_ite] at removed
    split at removed
    · rename_i isSrc
      rw [isSrc]
      exact mem_keys_iff.mpr ⟨_, given.childListed⟩
    · cases removed
  · intro name other id added kept
    rw [lookup_singleton_ite] at added
    split at added
    · obtain ⟨child, -, -, -, found, isParent, -, -, -⟩ := given.exchanges (Option.some.inj added)
      have isSrcParent := state.tree.agrees _ _ _ given.srcAt.above
        ⟨_, _, given.srcView, ⟨other, kept⟩, found⟩ found
      exact absurd (isSrcParent.symm.trans isParent) given.distinct.2.1
    · cases added

theorem dstFits : ChangesFit (Finmap.singleton dstName (some updater.srcChildManifest.id))
    updater.dstParentManifest.children := by
  constructor
  · intro name removed
    rw [lookup_singleton_ite] at removed
    split at removed <;> cases removed
  · intro name other id added kept
    rw [lookup_singleton_ite] at added
    split at added
    · cases added
      have isParent := state.tree.agrees _ _ _ given.dstAt.above
        ⟨_, _, given.dstView, ⟨other, kept⟩, given.childView⟩ given.childView
      exact absurd (given.childParent.symm.trans isParent) given.distinct.2.1
    · cases added

end Given

theorem reparenting_of_run (state : WorkspaceTree context store)
    (given : Given context store srcPath srcName dstPath dstName mode updater)
    (exchanged : exchangedChild context updater (exchangeOf mode updater dstName) = .ok dstChild)
    (before : Populated context store populated)
    (srcEvolves : updater.srcParentManifest.evolveChildrenAndMarkUpdated context.srcOrders
      (Finmap.singleton srcName (exchangeOf mode updater dstName)) populated.preventSyncPattern
        context.now = .ok srcParent)
    (dstEvolves : updater.dstParentManifest.evolveChildrenAndMarkUpdated context.dstOrders
      (Finmap.singleton dstName (some updater.srcChildManifest.id)) populated.preventSyncPattern
      context.now = .ok dstParent)
    (written : ReparentingUpdater.updateManifests populated
      ⟨srcParent, updater.srcChildManifest.reparent updater.dstParentManifest.base.id context.now,
        dstParent, dstChild⟩ = .ok store') :
    Reparenting (store.view context) (store'.view context) store.cache.manifests.rootManifestId
      srcPath srcName dstPath dstName updater.srcParentManifest.base.id updater.srcChildManifest.id
      updater.dstParentManifest.base.id (exchangeOf mode updater dstName) := by
  obtain ⟨otherParent, parentsDiffer, otherNewParent⟩ := given.distinct
  obtain ⟨srcBase, srcSame, srcChildren⟩ := evolved_child
    (state.tree.listedOnce _ _ given.srcAt.above given.srcView) (given.srcFits state) srcEvolves
  obtain ⟨dstBase, dstSame, dstChildren⟩ := evolved_child
    (state.tree.listedOnce _ _ given.dstAt.above given.dstView) (given.dstFits state) dstEvolves
  obtain ⟨atSrc, atDst, atChild, atDstChild, elsewhere⟩ := given.written srcBase dstBase
    (given.exchangedChild_eq exchanged) before written
  refine ⟨state.tree, state.parentAt_root, given.srcAt, given.dstAt, ?_, ?_, otherParent,
    otherNewParent, parentsDiffer, ?_, ?_, ?_⟩
  · rw [childAt_of_folder given.srcView]
    exact given.childListed
  · rw [parentAt, given.childView]
    exact congrArg some given.childParent
  · intro d isExchange
    obtain ⟨child, -, -, listed, found, isParent, otherChild, notSrc, notDst⟩ :=
      given.exchanges isExchange
    rw [childAt_of_folder given.dstView, parentAt, found]
    exact ⟨listed, congrArg some isParent, otherChild, notSrc, notDst⟩
  · intro q name
    by_cases isSrc : q = updater.srcParentManifest.base.id
    · rw [isSrc, childAt_of_folder atSrc, srcChildren, lookup_singleton_ite,
        childAt_of_folder given.srcView]
      by_cases here : name = srcName
      · simp [here]
      · simp [here, parentsDiffer]
    · by_cases isDst : q = updater.dstParentManifest.base.id
      · rw [isDst, childAt_of_folder atDst, dstChildren, lookup_singleton_ite,
          childAt_of_folder given.dstView]
        by_cases here : name = dstName
        · simp [here, Ne.symm parentsDiffer]
        · simp [here, Ne.symm parentsDiffer]
      · simp only [isSrc, isDst, false_and, if_false]
        by_cases isChild : q = updater.srcChildManifest.id
        · rw [isChild]
          exact childAt_reparent given.childView atChild name
        · cases dst : updater.dstChildManifest with
          | none => exact childAt_congr (elsewhere q isSrc isDst isChild (by simp [dst])) name
          | some child =>
            by_cases isDstChild : q = child.id
            · obtain ⟨again, isAgain, -, -, found, -⟩ :=
                given.exchanges (given.exchangeOf_child dst)
              rw [dst] at isAgain
              cases isAgain
              rw [isDstChild]
              exact childAt_reparent found (atDstChild child dst) name
            · exact childAt_congr (elsewhere q isSrc isDst isChild (by simp [dst, isDstChild])) name
  · intro id
    by_cases isChild : id = updater.srcChildManifest.id
    · rw [if_pos isChild, isChild, parentAt, atChild]
      simp
    · rw [if_neg isChild]
      by_cases isExchange : exchangeOf mode updater dstName = some id
      · obtain ⟨child, isDstChild, isId, -⟩ := given.exchanges isExchange
        rw [if_pos isExchange, parentAt, isId, atDstChild child isDstChild]
        simp
      · rw [if_neg isExchange]
        by_cases isSrc : id = updater.srcParentManifest.base.id
        · rw [isSrc, parentAt, parentAt, atSrc, given.srcView]
          exact congrArg some srcSame
        · by_cases isDst : id = updater.dstParentManifest.base.id
          · rw [isDst, parentAt, parentAt, atDst, given.dstView]
            exact congrArg some dstSame
          · rw [parentAt, parentAt, elsewhere id isSrc isDst isChild]
            intro child isDstChild isId
            rw [isId] at isExchange
            exact isExchange (given.exchangeOf_child isDstChild)

end Reparenting

/-- The condition under which a move keeps the tree. -/
def MovesOutside (view : View) (rootId : VlobID) (src dst : List EntryName) (mode : MoveEntryMode) :
    Prop :=
  ¬ MovedInside view rootId src dst ∧ (mode = .exchange → ¬ MovedInside view rootId dst src)

theorem locked_populated {populated : WorkspaceStore} {cache : CurrentViewCache}
    (before : Populated context store populated)
    (same : cache.manifests = populated.cache.manifests) :
    Populated context store { populated with cache := cache } where
  view := by
    rw [← before.view]
    funext id
    simp only [WorkspaceStore.view, same]
  rows := before.rows
  rootId := by
    rw [← before.rootId]
    exact congrArg _ same
  realmId := before.realmId

theorem cached_shown {populated : WorkspaceStore} (before : Populated context store populated)
    {id : VlobID} {manifest : LocalChildManifest}
    (found : populated.cache.manifests.get id = some manifest) :
    store.view context id = some manifest := by
  rw [← before.view]
  exact view_of_cached found

theorem renamed_outcome {turns : Nat} {path : List EntryName} {srcName dstName : EntryName}
    {mode : MoveEntryMode} {parent : LocalFolderManifest} {locked : WorkspaceStore}
    {result : Except WorkspaceMoveEntryError Unit} (state : WorkspaceTree context store)
    (resolved : resolvePathForUpdateFolder context turns store path =
      .ok (some (.ok parent, locked)))
    (run : moveEntrySameParent context locked parent srcName dstName mode = .ok (result, store')) :
    (∀ error, result = .error error → Populated context store store') ∧
      (result = .ok () →
        TreeKept (store.view context) (store'.view context) store.cache.manifests.rootManifestId
          (path ++ [srcName]) (path ++ [dstName]) mode ∧
        MovesOutside (store.view context) store.cache.manifests.rootManifestId (path ++ [srcName])
          (path ++ [dstName]) mode) := by
  obtain ⟨populated, before, ⟨_, failed, -⟩ | ⟨_, cache, done, attempt, isLocked⟩⟩ :=
    retryAttempts_spec resolved
  · cases failed
  · cases done
    rw [state.realm, ← before.rootId] at attempt
    have found := resolveParent_spec attempt
    have lockedBefore : Populated context store locked := by
      rw [isLocked]
      exact locked_populated before (by rw [found.locks])
    have isAt : At (store.view context) store.cache.manifests.rootManifestId path parent.base.id := by
      rw [← before.rootId]
      exact found.reached.mono fun _ _ => cached_shown before
    have inView := cached_shown before found.cached
    rcases moveEntrySameParent_spec run with ⟨⟨error, isError⟩, unchanged⟩ | ⟨isOk, childId, child,
      exchange, populated', evolved, listed, childView, isParent, isExchange, exchanges, before',
      evolves, written⟩
    · refine ⟨fun _ _ => lockedBefore.trans unchanged, ?_⟩
      intro isOk
      rw [isError] at isOk
      cases isOk
    · refine ⟨?_, fun _ => ?_⟩
      · intro error isError
        rw [isOk] at isError
        cases isError
      · have exchanged : ∀ d, exchange = some d → parent.children.lookup dstName = some d := by
          intro d isSome
          rw [isExchange] at isSome
          split at isSome
          · exact isSome
          · cases isSome
        rw [lockedBefore.view] at childView
        have renamed := renaming_of_run state isAt inView listed childView isParent exchanged
          (lockedBefore.trans before') evolves written
        refine ⟨renamed.kept exchanges, ?_, ?_⟩
        · exact renamed.not_inside renamed.listed renamed.isParent List.dropLast_concat
        · intro isMode
          obtain ⟨d, isSome⟩ := Option.ne_none_iff_exists'.mp (exchanges isMode)
          have named := renamed.exchanged d isSome
          rintro ⟨dstId, srcParentId, atDst, rest⟩
          obtain ⟨again, isDstParent⟩ := isAt.step_inv atDst
          rw [named] at again
          cases again
          exact renamed.not_inside named isDstParent List.dropLast_concat
            ⟨d, srcParentId, atDst, rest⟩

theorem given_of_attempt {srcPath dstPath : List EntryName} {srcName dstName : EntryName}
    {mode : MoveEntryMode} {updater : ReparentingUpdater} {populated : WorkspaceStore}
    (before : Populated context store populated)
    (found : ReparentingResolved populated.cache.manifests srcPath srcName dstPath
      (if mode = .exchange then some dstName else none) updater) :
    Given context store srcPath srcName dstPath dstName mode updater := by
  have shown : ∀ id manifest, populated.cache.manifests.get id = some manifest →
      store.view context id = some manifest := fun _ _ => cached_shown before
  refine ⟨?_, ?_, shown _ _ found.srcCached, shown _ _ found.dstCached, found.childListed,
    shown _ _ found.childCached, found.childParent, ?_, ?_, found.locked⟩
  · rw [← before.rootId]
    exact found.srcReached.mono shown
  · rw [← before.rootId]
    exact found.dstReached.mono shown
  · exact fun replaces => found.noDstChild (if_neg replaces)
  · intro isExchange
    obtain ⟨child, isChild, listed, cached, isParent⟩ := found.dstChild dstName (if_pos isExchange)
    exact ⟨child, isChild, listed, shown _ _ cached, isParent⟩

theorem reparented_outcome {turns : Nat} {srcPath dstPath : List EntryName}
    {srcName dstName : EntryName} {mode : MoveEntryMode} {updater : ReparentingUpdater}
    {locked : WorkspaceStore} {result : Except WorkspaceMoveEntryError Unit}
    (state : WorkspaceTree context store)
    (resolved : resolvePathForReparenting context turns store srcPath srcName dstPath
      (if mode = .exchange then some dstName else none) = .ok (some (.ok updater, locked)))
    (run : moveEntryDifferentParents context locked updater srcName dstName mode =
      .ok (result, store')) :
    (∀ error, result = .error error → Populated context store store') ∧
      (result = .ok () →
        (TreeKept (store.view context) (store'.view context) store.cache.manifests.rootManifestId
          (srcPath ++ [srcName]) (dstPath ++ [dstName]) mode ↔
        MovesOutside (store.view context) store.cache.manifests.rootManifestId
          (srcPath ++ [srcName]) (dstPath ++ [dstName]) mode)) := by
  obtain ⟨populated, before, ⟨_, failed, -⟩ | ⟨_, cache, done, attempt, isLocked⟩⟩ :=
    retryAttempts_spec resolved
  · cases failed
  · cases done
    rw [state.realm, ← before.rootId] at attempt
    obtain ⟨found, sameCache⟩ := cacheOnlyReparenting_spec attempt
    have lockedBefore : Populated context store locked := by
      rw [isLocked]
      exact locked_populated before sameCache
    have given := given_of_attempt before found
    rcases moveEntryDifferentParents_spec run with ⟨⟨error, isError⟩, unchanged⟩ | ⟨isOk, exchange,
      dstChild, populated', srcParent, dstParent, isExchange, exchanged, before', srcEvolves,
      dstEvolves, written⟩
    · refine ⟨fun _ _ => lockedBefore.trans unchanged, ?_⟩
      intro isOk
      rw [isError] at isOk
      cases isOk
    · refine ⟨?_, fun _ => ?_⟩
      · intro error isError
        rw [isOk] at isError
        cases isError
      · subst isExchange
        have move := reparenting_of_run state given exchanged (lockedBefore.trans before') srcEvolves
          dstEvolves written
        rw [MovesOutside, move.movedInside_iff]
        by_cases isMode : mode = .exchange
        · obtain ⟨child, isChild, -⟩ := given.dstChild isMode
          have isSome := given.exchangeOf_child isChild
          rw [move.movedInside_back_iff isSome, isMode]
          rw [move.kept_iff_of_exchange isSome]
          simp
        · rw [move.kept_iff_of_replacing isMode]
          simp [isMode]

theorem moveEntry_outcome {turns : Nat} {src dst : List EntryName} {mode : MoveEntryMode}
    {result : Except WorkspaceMoveEntryError Unit} (state : WorkspaceTree context store)
    (run : moveEntry context turns store src dst mode = .ok (some (result, store'))) :
    (∀ error, result = .error error → Populated context store store') ∧
      (result = .ok () →
        (TreeKept (store.view context) (store'.view context) store.cache.manifests.rootManifestId
          src dst mode ↔
        MovesOutside (store.view context) store.cache.manifests.rootManifestId src dst mode)) := by
  unfold moveEntry at run
  split at run
  · cases run
    exact ⟨fun _ _ => .refl context _, by simp⟩
  · split at run
    · rename_i srcName dstName srcLast dstLast
      have isSrc : src = src.dropLast ++ [srcName] := (List.dropLast_append_getLast? _ srcLast).symm
      have isDst : dst = dst.dropLast ++ [dstName] := (List.dropLast_append_getLast? _ dstLast).symm
      split at run
      · rename_i sameParent
        obtain ⟨outcome, resolved, run⟩ := bind_eq_ok.mp run
        split at run
        · cases run
        · cases run
          obtain ⟨populated, before, ⟨_, -, same⟩ | ⟨_, _, failed, -⟩⟩ := retryAttempts_spec resolved
          · rw [same]
            exact ⟨fun _ _ => before, by simp⟩
          · cases failed
        · obtain ⟨⟨final, final'⟩, moves, done⟩ := bind_eq_ok.mp run
          cases done
          obtain ⟨unchanged, kept⟩ := renamed_outcome state resolved moves
          refine ⟨fun error isError => (unchanged error isError).withLocks _, ?_⟩
          intro isOk
          rw [isDst, ← sameParent, isSrc, List.dropLast_concat]
          exact iff_of_true (kept isOk).1 (kept isOk).2
      · obtain ⟨outcome, resolved, run⟩ := bind_eq_ok.mp run
        split at run
        · cases run
        · cases run
          obtain ⟨populated, before, ⟨_, -, same⟩ | ⟨_, _, failed, -⟩⟩ := retryAttempts_spec resolved
          · rw [same]
            exact ⟨fun _ _ => before, by simp⟩
          · cases failed
        · obtain ⟨⟨final, final'⟩, moves, done⟩ := bind_eq_ok.mp run
          cases done
          obtain ⟨unchanged, kept⟩ := reparented_outcome state resolved moves
          rw [← isSrc, ← isDst] at kept
          exact ⟨fun error isError => (unchanged error isError).withLocks _, kept⟩
    · cases run
      exact ⟨fun _ _ => .refl context _, by simp⟩

/-- A move that fails leaves the manifests, and one that succeeds keeps the tree exactly when it
    moves no entry below itself. -/
theorem move_keeps_tree_iff (state : WorkspaceTree context store) (turns : Nat)
    (src dst : List EntryName) (mode : MoveEntryMode) :
    (∀ error store', moveEntry context turns store src dst mode = .ok (some (.error error, store')) →
      Populated context store store') ∧
    ∀ store', moveEntry context turns store src dst mode = .ok (some (.ok (), store')) →
      (TreeKept (store.view context) (store'.view context) store.cache.manifests.rootManifestId
        src dst mode ↔
      MovesOutside (store.view context) store.cache.manifests.rootManifestId src dst mode) := by
  constructor
  · intro error store' run
    exact (moveEntry_outcome state run).1 error rfl
  · intro store' run
    exact (moveEntry_outcome state run).2 rfl

/-- A move to a free name of another folder succeeds when its manifests are in the cache and their
    locks are free. -/
theorem moveEntry_to_free_name {turns : Nat} {srcPath dstPath : List EntryName}
    {srcName dstName : EntryName} {mode : MoveEntryMode} {updater : ReparentingUpdater}
    {cache : CurrentViewCache} (state : WorkspaceTree context store)
    (canWrite : context.canWrite = true) (writes : context.writes = .ok ())
    (otherParent : srcPath ≠ dstPath) (replaces : mode ≠ .exchange)
    (attempt : cacheOnlyReparenting store.realmId store.cache srcPath srcName dstPath none =
      .ok (updater, cache))
    (free : updater.dstParentManifest.children.lookup dstName = none) :
    ∃ store', moveEntry context (turns + 1) store (srcPath ++ [srcName]) (dstPath ++ [dstName]) mode =
      .ok (some (.ok (), store')) := by
  have resolved : resolvePathForReparenting context (turns + 1) store srcPath srcName dstPath none =
      .ok (some (.ok updater, { store with cache := cache })) := by
    rw [resolvePathForReparenting, retryAttempts, attempt]
  rw [state.realm] at attempt
  obtain ⟨found, sameCache⟩ := cacheOnlyReparenting_spec attempt
  have given : Given context store srcPath srcName dstPath dstName mode updater :=
    given_of_attempt (.refl context store) (by rw [if_neg replaces]; exact found)
  have noExchange : exchangeOf mode updater dstName = none := if_neg replaces
  obtain ⟨srcParent, srcEvolves, srcEvolved⟩ := evolve_spec context.srcOrders
    store.preventSyncPattern context.now
    (state.tree.listedOnce _ _ given.srcAt.above given.srcView) (given.srcFits state)
  obtain ⟨dstParent, dstEvolves, dstEvolved⟩ := evolve_spec context.dstOrders
    store.preventSyncPattern context.now
    (state.tree.listedOnce _ _ given.dstAt.above given.dstView) (given.dstFits state)
  obtain ⟨written, writing⟩ : ∃ written, ReparentingUpdater.updateManifests
      { store with cache := cache } ⟨srcParent, updater.srcChildManifest.reparent
        updater.dstParentManifest.base.id context.now, dstParent, none⟩ = .ok written := by
    apply write_ok
    intro manifest member isRoot
    simp only [List.mem_cons, List.not_mem_nil, or_false] at member
    rcases member with rfl | rfl | rfl
    · exact ⟨_, rfl⟩
    · exact ⟨_, rfl⟩
    · have isFolder := found.childCached
      rw [sameCache, reparent_id] at isRoot
      rw [isRoot, ManifestsHashMap.get_root] at isFolder
      rw [← Option.some.inj isFolder]
      exact ⟨_, rfl⟩
  rw [noExchange] at srcEvolves
  have exchanges : exchangeSrcChildId context { store with cache := cache } mode
      updater.dstParentManifest dstName = .ok (.ok none, { store with cache := cache }) := by
    rw [exchangeSrcChildId, free]
    exact if_neg replaces
  have moves : moveEntryDifferentParents context { store with cache := cache } updater srcName dstName
      mode = .ok (.ok (), written) := by
    simp only [moveEntryDifferentParents, exchanges, ok_bind, exchangedChild, given.noDstChild replaces,
      srcEvolves, dstEvolves, writes, writing]
    rfl
  refine ⟨written.withLocks store.cache.lockUpdateManifests, ?_⟩
  simp only [moveEntry, canWrite, List.getLast?_append, List.getLast?_singleton, Option.some_or,
    List.dropLast_concat, if_neg otherParent, if_neg replaces, resolved, moves, ok_bind]
  rfl

end Runs

/-- A folder b in a folder a in the root. -/
def namedFolder (id parent : VlobID) (children : Children) : LocalFolderManifest where
  base :=
    { author := ⟨0⟩, timestamp := 0, id := id, parent := parent, version := 1, created := 0
      updated := 0, children := children }
  parent := parent
  needSync := false
  updated := 0
  children := children
  localConfinementPoints := ∅
  remoteConfinementPoints := ∅
  speculative := false

def nestedRoot : LocalFolderManifest := namedFolder ⟨1⟩ ⟨1⟩ (Finmap.singleton entryA ⟨2⟩)
def nestedA : LocalFolderManifest := namedFolder ⟨2⟩ ⟨1⟩ (Finmap.singleton entryB ⟨3⟩)
def nestedB : LocalFolderManifest := namedFolder ⟨3⟩ ⟨2⟩ ∅

def nestedStore : WorkspaceStore where
  realmId := ⟨1⟩
  storage := ⟨[.folder nestedRoot, .folder nestedA, .folder nestedB], ⟨"", true⟩, by decide⟩
  cache :=
    { manifests := ((ManifestsHashMap.new nestedRoot).place (.folder nestedA) fun _ => ⟨_, rfl⟩).place
        (.folder nestedB) fun _ => ⟨_, rfl⟩
      lockUpdateManifests := ∅ }
  preventSyncPattern := ⟨[]⟩

theorem nothing_served (id : VlobID) (manifest : LocalChildManifest)
    (found : (.error .entryNotFound : Except PopulateCacheError LocalChildManifest) = .ok manifest) :
    manifest.id = id := by
  cases found

noncomputable def nestedContext : MoveContext where
  canWrite := true
  now := 1
  srcOrders := someFolderOrders
  dstOrders := someFolderOrders
  server := fun _ => .error .entryNotFound
  served := nothing_served
  reads := .ok ()
  populates := .ok ()
  writes := .ok ()

theorem nested_view (id : VlobID) :
    nestedStore.view nestedContext id =
      if id = ⟨3⟩ then some (.folder nestedB) else if id = ⟨2⟩ then some (.folder nestedA)
      else if id = ⟨1⟩ then some (.folder nestedRoot) else none := by
  by_cases isB : id = ⟨3⟩
  · rw [isB]
    rfl
  · by_cases isA : id = ⟨2⟩
    · rw [isA]
      rfl
    · by_cases isRoot : id = ⟨1⟩
      · rw [isRoot]
        rfl
      · simp only [isB, isA, isRoot, if_false]
        have cached : nestedStore.cache.manifests.get id = none := by
          change ((Finmap.singleton _ _).insert _ _ |>.insert _ _).lookup id = none
          rw [lookup_insert_ite, lookup_insert_ite, lookup_singleton_ite]
          simp [isB, isA, isRoot, nestedB, nestedA, nestedRoot, namedFolder]
        have stored : nestedStore.storage.getManifest id = none := by
          simp [nestedStore, WorkspaceStorage.getManifest, nestedRoot, nestedA, nestedB, namedFolder,
            Ne.symm isB, Ne.symm isA, Ne.symm isRoot]
        rw [WorkspaceStore.view, cached, stored]
        rfl

theorem nested_lists {p c : VlobID} (lists : Lists (nestedStore.view nestedContext) p c) :
    p = ⟨1⟩ ∧ c = ⟨2⟩ ∨ p = ⟨2⟩ ∧ c = ⟨3⟩ := by
  obtain ⟨parent, child, isFolder, ⟨name, listed⟩, -⟩ := lists
  rw [nested_view] at isFolder
  split at isFolder
  · cases isFolder
    cases listed
  · split at isFolder
    · rename_i isA
      cases isFolder
      rw [nestedA, namedFolder, lookup_singleton_ite] at listed
      split at listed
      · cases listed
        exact Or.inr ⟨isA, rfl⟩
      · cases listed
    · split at isFolder
      · rename_i isRoot
        cases isFolder
        rw [nestedRoot, namedFolder, lookup_singleton_ite] at listed
        split at listed
        · cases listed
          exact Or.inl ⟨isRoot, rfl⟩
        · cases listed
      · cases isFolder

theorem injective_singleton (name : EntryName) (id : VlobID) :
    Injective (Finmap.singleton name id : Children) := by
  intro k k' v first second
  rw [lookup_singleton_ite] at first second
  split at first
  · split at second
    · rename_i isName isName'
      rw [isName, isName']
    · cases second
  · cases first

theorem nested_tree : WorkspaceTree nestedContext nestedStore where
  realm := rfl
  rootParent := rfl
  tree :=
    { agrees := by
        intro p c child _ lists found
        rw [nested_view] at found
        rcases nested_lists lists with ⟨rfl, rfl⟩ | ⟨rfl, rfl⟩
        · cases found
          rfl
        · cases found
          rfl
      listedOnce := by
        intro p parent _ isFolder
        rw [nested_view] at isFolder
        split at isFolder
        · cases isFolder
          exact injective_empty
        · split at isFolder
          · cases isFolder
            exact injective_singleton _ _
          · split at isFolder
            · cases isFolder
              exact injective_singleton _ _
            · cases isFolder }

theorem nested_above {p c : VlobID} (above : Above (nestedStore.view nestedContext) p c) :
    p.uuid ≤ c.uuid := by
  induction above with
  | refl => exact le_rfl
  | tail _ lists ih =>
    rcases nested_lists lists with ⟨rfl, rfl⟩ | ⟨rfl, rfl⟩
    · exact ih.trans (by decide)
    · exact ih.trans (by decide)

theorem nested_at_a : At (nestedStore.view nestedContext) ⟨1⟩ ([] ++ [entryA]) ⟨2⟩ :=
  At.root.step (by rw [childAt, nested_view]; rfl) (by rw [parentAt, nested_view]; rfl)

theorem nested_at_b : At (nestedStore.view nestedContext) ⟨1⟩ ([] ++ [entryA] ++ [entryB]) ⟨3⟩ :=
  nested_at_a.step (by rw [childAt, nested_view]; rfl) (by rw [parentAt, nested_view]; rfl)

/-- The folder b goes up to the root. -/
theorem move_up_keeps_tree :
    ∃ store', moveEntry nestedContext 1 nestedStore [entryA, entryB] [entryB] .canReplace =
        .ok (some (.ok (), store')) ∧
      TreeKept (nestedStore.view nestedContext) (store'.view nestedContext) ⟨1⟩ [entryA, entryB]
        [entryB] .canReplace := by
  obtain ⟨store', run⟩ : ∃ store', moveEntry nestedContext (0 + 1) nestedStore ([entryA] ++ [entryB])
      ([] ++ [entryB]) .canReplace = .ok (some (.ok (), store')) :=
    moveEntry_to_free_name nested_tree rfl rfl (by decide) (by decide) rfl rfl
  refine ⟨store', run, ?_⟩
  apply ((move_keeps_tree_iff nested_tree 1 [entryA, entryB] [entryB] .canReplace).2 store' run).mpr
  refine ⟨?_, fun isExchange => nomatch isExchange⟩
  rintro ⟨srcId, dstParentId, atSrc, atDst, -, above⟩
  rw [atSrc.unique nested_at_b, atDst.unique .root] at above
  exact absurd (nested_above above) (by decide)

/-- The folder a goes into the folder b that it contains. -/
theorem folder_lost_inside_itself :
    WorkspaceTree nestedContext nestedStore ∧
      ∃ store', moveEntry nestedContext 1 nestedStore [entryA] [entryA, entryB, entryA] .canReplace =
          .ok (some (.ok (), store')) ∧
        ¬ TreeKept (nestedStore.view nestedContext) (store'.view nestedContext) ⟨1⟩ [entryA]
          [entryA, entryB, entryA] .canReplace := by
  obtain ⟨store', run⟩ : ∃ store', moveEntry nestedContext (0 + 1) nestedStore ([] ++ [entryA])
      ([entryA, entryB] ++ [entryA]) .canReplace = .ok (some (.ok (), store')) :=
    moveEntry_to_free_name nested_tree rfl rfl (by decide) (by decide) rfl rfl
  refine ⟨nested_tree, store', run, ?_⟩
  intro kept
  obtain ⟨outside, -⟩ := ((moveEntry_outcome nested_tree run).2 rfl).mp kept
  apply outside
  refine ⟨⟨2⟩, ⟨3⟩, nested_at_a, nested_at_b, by decide, ?_⟩
  exact .tail .refl (lists_iff.mpr ⟨⟨entryB, by rw [childAt, nested_view]; rfl⟩,
    by rw [parentAt, nested_view]; rfl⟩)

end ParsecCloud

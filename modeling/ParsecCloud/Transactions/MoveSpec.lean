import ParsecCloud.Store.Trail
import ParsecCloud.Store.Tree
import ParsecCloud.Transactions.MoveEntry

/- What the steps of a move do to the manifests that can be obtained. -/
namespace ParsecCloud
open Rust HashMap Relation

/-- The manifests that can be obtained: in the cache, in the storage or from the server. -/
def WorkspaceStore.view (context : MoveContext) (store : WorkspaceStore) : View := fun id =>
  (store.cache.manifests.get id).or
    ((store.storage.getManifest id).or (context.server id).toOption)

/-- Manifests have been populated, and nothing else has changed. -/
structure Populated (context : MoveContext) (store store' : WorkspaceStore) : Prop where
  view : store'.view context = store.view context
  rows : ∀ id manifest, store.storage.getManifest id = some manifest →
    store'.storage.getManifest id = some manifest
  rootId : store'.cache.manifests.rootManifestId = store.cache.manifests.rootManifestId
  realmId : store'.realmId = store.realmId

theorem Populated.refl (context : MoveContext) (store : WorkspaceStore) :
    Populated context store store :=
  ⟨rfl, fun _ _ found => found, rfl, rfl⟩

variable {context : MoveContext} {store store' store'' : WorkspaceStore}

theorem Populated.trans (first : Populated context store store')
    (second : Populated context store' store'') : Populated context store store'' where
  view := second.view.trans first.view
  rows id manifest found := second.rows id manifest (first.rows id manifest found)
  rootId := second.rootId.trans first.rootId
  realmId := second.realmId.trans first.realmId

theorem Populated.withLocks (populated : Populated context store store')
    (locks : PerManifestUpdateLock) : Populated context store (store'.withLocks locks) :=
  ⟨populated.view, populated.rows, populated.rootId, populated.realmId⟩

theorem view_of_cached {id : VlobID} {manifest : LocalChildManifest}
    (found : store.cache.manifests.get id = some manifest) :
    store.view context id = some manifest := by
  rw [WorkspaceStore.view, found]
  rfl

theorem insertIfMissing_populated {manifest present : LocalChildManifest}
    (shown : store.cache.manifests.get manifest.id = none →
      store.view context manifest.id = some manifest)
    (run : store.insertIfMissing manifest = .ok (present, store')) :
    Populated context store store' ∧ store.view context manifest.id = some present := by
  obtain ⟨manifests, inserted, done⟩ := bind_eq_ok.mp run
  cases done
  have isPresent : store.view context manifest.id =
      some ((store.cache.manifests.get manifest.id).getD manifest) := by
    cases cached : store.cache.manifests.get manifest.id with
    | some present => exact view_of_cached cached
    | none => exact shown cached
  refine ⟨?_, isPresent⟩
  rcases ManifestsHashMap.insertIfMissing_cases inserted with same | ⟨missing, insertion⟩
  · rw [same]
    exact .refl context store
  · obtain ⟨sameRoot, gets⟩ := ManifestsHashMap.insert_cases insertion
    refine ⟨?_, fun _ _ found => found, sameRoot, rfl⟩
    funext id
    by_cases here : id = manifest.id
    · rw [here, shown missing]
      apply view_of_cached
      exact (gets manifest.id).trans (if_pos rfl)
    · have kept : manifests.get id = store.cache.manifests.get id := by rw [gets, if_neg here]
      simp only [WorkspaceStore.view, WorkspaceStore.withManifests, kept]

theorem populateManifest_populated {entryId : VlobID} {manifest : LocalChildManifest}
    (absent : store.storage.getManifest entryId = none)
    (served : context.server entryId = .ok manifest) :
    Populated context store
      { store with storage := (store.storage.populateManifest manifest).2 } := by
  have isId := context.served entryId manifest served
  have rows : ∀ id, (store.storage.populateManifest manifest).2.getManifest id =
      if id = entryId then some manifest else store.storage.getManifest id := by
    intro id
    rw [WorkspaceStorage.populateManifest, isId, absent]
    simp only [WorkspaceStorage.getManifest_updateManifest, isId]
  refine ⟨?_, ?_, rfl, rfl⟩
  · funext id
    simp only [WorkspaceStore.view, rows]
    by_cases here : id = entryId
    · simp [here, absent, served, Except.toOption]
    · simp [here]
  · intro id row found
    have other : id ≠ entryId := by
      intro here
      rw [here, absent] at found
      cases found
    rw [rows, if_neg other]
    exact found

theorem populate_spec {entryId : VlobID} {manifest : LocalChildManifest}
    (run : store.populateCacheFromLocalStorageOrServer context entryId =
      .ok (.ok (manifest, store'))) :
    Populated context store store' ∧ store.view context entryId = some manifest := by
  unfold WorkspaceStore.populateCacheFromLocalStorageOrServer at run
  split at run
  · cases run
  · split at run
    · rename_i row stored
      obtain ⟨⟨present, final⟩, inserted, done⟩ := bind_eq_ok.mp run
      cases done
      have isId := WorkspaceStorage.id_of_getManifest stored
      rw [← isId]
      apply insertIfMissing_populated _ inserted
      intro missing
      rw [isId] at missing ⊢
      rw [WorkspaceStore.view, missing, stored]
      rfl
    · rename_i absent
      split at run
      · cases run
      · rename_i served isServed
        split at run
        · cases run
        · obtain ⟨⟨present, final⟩, inserted, done⟩ := bind_eq_ok.mp run
          cases done
          have stored := populateManifest_populated absent isServed
          have isId := context.served entryId served isServed
          have inView : store.cache.manifests.get served.id = none →
              store.view context served.id = some served := by
            intro missing
            rw [isId] at missing ⊢
            rw [WorkspaceStore.view, missing, absent, isServed]
            rfl
          rw [← stored.view] at inView
          obtain ⟨populated, isPresent⟩ := insertIfMissing_populated inView inserted
          rw [stored.view, isId] at isPresent
          exact ⟨stored.trans populated, isPresent⟩

theorem getManifest_spec {entryId : VlobID} {manifest : LocalChildManifest}
    (run : store.getManifest context entryId = .ok (.ok (manifest, store'))) :
    Populated context store store' ∧ store.view context entryId = some manifest := by
  unfold WorkspaceStore.getManifest at run
  split at run
  · rename_i found
    cases run
    exact ⟨.refl context store, view_of_cached found⟩
  · exact populate_spec run

theorem ensure_spec {childId parentId : VlobID} {found : Option LocalChildManifest}
    (run : store.ensureManifestExistsWithParent context childId parentId =
      .ok (.ok (found, store'))) :
    Populated context store store' ∧ ∀ manifest, found = some manifest →
      store.view context childId = some manifest ∧ manifest.parent = parentId := by
  obtain ⟨outcome, got, run⟩ := bind_eq_ok.mp run
  split at run
  · cases run
    exact ⟨.refl context store, by simp⟩
  · cases run
  · obtain ⟨populated, inView⟩ := getManifest_spec got
    split at run
    · rename_i isParent
      cases run
      refine ⟨populated, ?_⟩
      rintro manifest ⟨⟩
      exact ⟨inView, isParent⟩
    · cases run
      exact ⟨populated, by simp⟩

theorem exchangeSrcChildId_spec {mode : MoveEntryMode} {dstParent : LocalFolderManifest}
    {name : EntryName} {result : Except WorkspaceMoveEntryError (Option VlobID)}
    (run : exchangeSrcChildId context store mode dstParent name = .ok (result, store')) :
    Populated context store store' ∧ ∀ exchange, result = .ok exchange →
      (exchange = if mode = .exchange then dstParent.children.lookup name else none) ∧
        (mode = .exchange → exchange ≠ none) := by
  unfold exchangeSrcChildId at run
  split at run
  · split at run
    · cases run
      exact ⟨.refl context store, by simp⟩
    · rename_i replaces
      cases run
      exact ⟨.refl context store, by simp [replaces]⟩
  · rename_i dstChildId listed
    obtain ⟨outcome, ensured, run⟩ := bind_eq_ok.mp run
    split at run
    · cases run
      exact ⟨.refl context store, by simp⟩
    · have populated := (ensure_spec ensured).1
      split at run
      · cases run
        exact ⟨populated, by simp⟩
      · rename_i replaces
        cases run
        exact ⟨populated, by simp [replaces]⟩
    · have populated := (ensure_spec ensured).1
      split at run
      all_goals
        cases run
        exact ⟨populated, by simp [listed]⟩

theorem Wrote.view {manifests : List LocalChildManifest} (wrote : Wrote manifests store store')
    (id : VlobID) :
    store'.view context id = (lastWritten manifests id).or (store.view context id) := by
  simp only [WorkspaceStore.view, wrote.cached id, wrote.stored id]
  cases lastWritten manifests id with
  | none => rfl
  | some manifest => rfl

section Attempts
variable {cache cache' : CurrentViewCache}

theorem At.mono {view view' : View} (more : ∀ id manifest, view id = some manifest →
      view' id = some manifest) {rootId id : VlobID} {path : List EntryName}
    (reached : At view rootId path id) : At view' rootId path id := by
  induction reached with
  | root => exact .root
  | child _ isFolder listed found isParent ih =>
    exact .child ih (more _ _ isFolder) listed (more _ _ found) isParent

theorem at_of_resolved {manifests : ManifestsHashMap} {parts : List EntryName} {last : StepKind}
    (resolved : parts.foldlM (resolvePart manifests) .root = .ok last) :
    At manifests.get manifests.rootManifestId parts (last.manifest manifests).id ∧
      last.Present manifests := by
  induction parts using List.reverseRecOn generalizing last with
  | nil =>
    cases resolved
    refine ⟨?_, StepKind.root_present manifests⟩
    simp only [StepKind.manifest, LocalChildManifest.folder_id, ManifestsHashMap.rootManifest_id]
    exact .root
  | append_singleton parts name ih =>
    rw [List.foldlM_append] at resolved
    obtain ⟨step, before, resolved⟩ := bind_eq_ok.mp resolved
    rw [List.foldlM_cons] at resolved
    obtain ⟨next, part, done⟩ := bind_eq_ok.mp resolved
    cases Except.ok.inj done
    obtain ⟨atParent, present⟩ := ih before
    obtain ⟨parent, childId, child, isFolder, listed, found, agrees, rfl⟩ := resolvePart_eq_ok.mp part
    have isId : child.id = childId := ManifestsHashMap.id_of_get found
    simp only [StepKind.Present, StepKind.manifest, isId]
    rw [StepKind.Present, isFolder] at present
    rw [isFolder] at atParent
    exact ⟨.child atParent present listed found agrees, found⟩

theorem take_eq_some {locks locks' : PerManifestUpdateLock} {entryId : VlobID}
    (taken : locks.take entryId = some locks') : entryId ∉ locks ∧ locks' = insert entryId locks := by
  unfold PerManifestUpdateLock.take at taken
  split at taken
  · cases taken
  · rename_i free
    cases taken
    exact ⟨free, rfl⟩

/-- A parent that is resolved, and its lock. -/
structure ParentResolved (cache : CurrentViewCache) (parts : List EntryName)
    (parent : LocalFolderManifest) (cache' : CurrentViewCache) : Prop where
  reached : At cache.manifests.get cache.manifests.rootManifestId parts parent.base.id
  cached : cache.manifests.get parent.base.id = some (.folder parent)
  free : parent.base.id ∉ cache.lockUpdateManifests
  locks : cache' = { cache with lockUpdateManifests := insert parent.base.id cache.lockUpdateManifests }

theorem resolveParent_spec {who : WhoIsInNeed} {parts : List EntryName} {parent : LocalFolderManifest}
    (run : resolveParent who cache.manifests.rootManifestId cache parts = .ok (parent, cache')) :
    ParentResolved cache parts parent cache' := by
  unfold resolveParent cacheOnlyPathResolution at run
  cases resolved : parts.foldlM (resolvePart cache.manifests) .root with
  | error stop =>
    rw [resolved] at run
    cases stop <;> cases run
  | ok last =>
    obtain ⟨reached, present⟩ := at_of_resolved resolved
    have isLock : last.lockId cache.manifests.rootManifestId = (last.manifest cache.manifests).id := by
      cases last with
      | root => exact (ManifestsHashMap.rootManifest_id _).symm
      | child manifest confinement => rfl
    rw [resolved] at run
    dsimp only at run
    rw [if_pos rfl, isLock] at run
    cases taken : cache.lockUpdateManifests.take (last.manifest cache.manifests).id with
    | none =>
      rw [taken] at run
      cases run
    | some locks =>
      rw [taken] at run
      dsimp only at run
      obtain ⟨free, isInsert⟩ := take_eq_some taken
      cases kind : last.manifest cache.manifests with
      | file file =>
        rw [kind] at run
        cases run
      | folder folder =>
        rw [kind] at run
        cases run
        rw [StepKind.Present, kind] at present
        rw [kind] at reached free isInsert
        exact ⟨reached, present, free, by rw [isInsert]; rfl⟩

/-- A child that is resolved, and its lock. -/
structure ChildResolved (cache : CurrentViewCache) (parent : LocalFolderManifest) (name : EntryName)
    (child : LocalChildManifest) (cache' : CurrentViewCache) : Prop where
  listed : parent.children.lookup name = some child.id
  cached : cache.manifests.get child.id = some child
  isParent : child.parent = parent.base.id
  free : child.id ∉ cache.lockUpdateManifests
  locks : cache' = { cache with lockUpdateManifests := insert child.id cache.lockUpdateManifests }

theorem resolveChild_spec {who : WhoIsInNeed} {parent : LocalFolderManifest} {name : EntryName}
    {child : LocalChildManifest} (run : resolveChild who parent name cache = .ok (child, cache')) :
    ChildResolved cache parent name child cache' := by
  unfold resolveChild at run
  split at run
  · cases run
  · rename_i childId listed
    split at run
    · cases run
    · rename_i manifest found
      split at run
      · cases run
      · rename_i agrees
        split at run
        · cases run
        · rename_i locks taken
          cases run
          obtain ⟨free, rfl⟩ := take_eq_some taken
          cases ManifestsHashMap.id_of_get found
          exact ⟨listed, found, not_not.mp agrees, free, rfl⟩

/-- The entries of a reparenting that are resolved. -/
structure ReparentingResolved (manifests : ManifestsHashMap) (srcParentParts : List EntryName)
    (srcChildName : EntryName) (dstParentParts : List EntryName) (dstChildName : Option EntryName)
    (updater : ReparentingUpdater) : Prop where
  srcReached : At manifests.get manifests.rootManifestId srcParentParts
    updater.srcParentManifest.base.id
  dstReached : At manifests.get manifests.rootManifestId dstParentParts
    updater.dstParentManifest.base.id
  srcCached : manifests.get updater.srcParentManifest.base.id = some (.folder updater.srcParentManifest)
  dstCached : manifests.get updater.dstParentManifest.base.id = some (.folder updater.dstParentManifest)
  childListed : updater.srcParentManifest.children.lookup srcChildName =
    some updater.srcChildManifest.id
  childCached : manifests.get updater.srcChildManifest.id = some updater.srcChildManifest
  childParent : updater.srcChildManifest.parent = updater.srcParentManifest.base.id
  noDstChild : dstChildName = none → updater.dstChildManifest = none
  dstChild : ∀ name, dstChildName = some name → ∃ child, updater.dstChildManifest = some child ∧
    updater.dstParentManifest.children.lookup name = some child.id ∧
    manifests.get child.id = some child ∧ child.parent = updater.dstParentManifest.base.id
  locked : updater.Locked

theorem cacheOnlyReparenting_spec {srcParentParts dstParentParts : List EntryName}
    {srcChildName : EntryName} {dstChildName : Option EntryName} {updater : ReparentingUpdater}
    (run : cacheOnlyReparenting cache.manifests.rootManifestId cache srcParentParts srcChildName
      dstParentParts dstChildName = .ok (updater, cache')) :
    ReparentingResolved cache.manifests srcParentParts srcChildName dstParentParts dstChildName
        updater ∧ cache'.manifests = cache.manifests := by
  unfold cacheOnlyReparenting at run
  obtain ⟨⟨dstParent, cache₁⟩, dstRun, run⟩ := bind_eq_ok.mp run
  obtain ⟨⟨srcParent, cache₂⟩, srcRun, run⟩ := bind_eq_ok.mp run
  obtain ⟨⟨srcChild, cache₃⟩, childRun, run⟩ := bind_eq_ok.mp run
  have dst := resolveParent_spec dstRun
  cases dst.locks
  have src := resolveParent_spec srcRun
  cases src.locks
  have child := resolveChild_spec childRun
  cases child.locks
  have srcFree := src.free
  have childFree := child.free
  simp only [Finset.mem_insert, not_or] at srcFree childFree
  cases dstChildName with
  | none =>
    cases run
    refine ⟨⟨src.reached, dst.reached, src.cached, dst.cached, child.listed, child.cached,
      child.isParent, fun _ => rfl, by simp, ?_⟩, rfl⟩
    simp only [ReparentingUpdater.Locked, Option.toList_none, List.map_nil, List.append_nil,
      List.nodup_cons, List.mem_cons, List.not_mem_nil, or_false, not_or, not_false_eq_true,
      List.nodup_nil, and_true]
    exact ⟨⟨Ne.symm childFree.1, srcFree.1⟩, childFree.2.1⟩
  | some name =>
    obtain ⟨⟨dstChild, cache₄⟩, dstChildRun, run⟩ := bind_eq_ok.mp run
    cases run
    have dstResolved := resolveChild_spec dstChildRun
    have dstFree := dstResolved.free
    simp only [Finset.mem_insert, not_or] at dstFree
    refine ⟨⟨src.reached, dst.reached, src.cached, dst.cached, child.listed, child.cached,
      child.isParent, by simp, ?_, ?_⟩, rfl⟩
    · rintro _ ⟨⟩
      exact ⟨dstChild, rfl, dstResolved.listed, dstResolved.cached, dstResolved.isParent⟩
    · simp only [ReparentingUpdater.Locked, Option.toList_some, List.map_cons, List.map_nil,
        List.cons_append, List.nil_append, List.nodup_cons, List.mem_cons, List.not_mem_nil,
        or_false, not_or, not_false_eq_true, List.nodup_nil, and_true]
      exact ⟨⟨Ne.symm childFree.1, srcFree.1, Ne.symm dstFree.2.1⟩,
        ⟨childFree.2.1, Ne.symm dstFree.1⟩, Ne.symm dstFree.2.2.1⟩

end Attempts

/-- What a loop of attempts does: manifests are populated, and then an attempt succeeds or there is
    an error. -/
theorem retryAttempts_spec
    {attempt : CurrentViewCache → Except ReparentingStop (α × CurrentViewCache)} {turns : Nat}
    {result : Except WorkspaceMoveEntryError α}
    (run : retryAttempts context attempt turns store = .ok (some (result, store'))) :
    ∃ populated, Populated context store populated ∧
      ((∃ error, result = .error error ∧ store' = populated) ∨
        ∃ resolved cache, result = .ok resolved ∧
          attempt populated.cache = .ok (resolved, cache) ∧
          store' = { populated with cache := cache }) := by
  induction turns generalizing store with
  | zero => cases run
  | succ turns ih =>
    unfold retryAttempts at run
    split at run
    · rename_i resolved cache attempted
      cases run
      exact ⟨_, .refl context _, Or.inr ⟨resolved, cache, rfl, attempted, rfl⟩⟩
    · cases run
      exact ⟨_, .refl context _, Or.inl ⟨_, rfl, rfl⟩⟩
    · cases run
    · obtain ⟨outcome, populate, run⟩ := bind_eq_ok.mp run
      split at run
      · cases run
        exact ⟨_, .refl context _, Or.inl ⟨_, rfl, rfl⟩⟩
      · obtain ⟨populated, before, ends⟩ := ih run
        exact ⟨populated, (populate_spec populate).1.trans before, ends⟩

end ParsecCloud

import ParsecCloud.Store.Trail

/- The two directions of path resolution agree, unless the root is an entry below itself. -/
namespace ParsecCloud
open Rust HashMap Relation

variable {orders : VlobID → HashOrder EntryName} {manifests : ManifestsHashMap}
  {entryId : VlobID} {entryManifest : LocalChildManifest} {notFound : Option VlobID}

/-- What holds at each turn of the loop up to the root: it has gone up a trail that ends at the
    entry. -/
structure Climbed (manifests : ManifestsHashMap) (entryId : VlobID) (s : PathRetrieval) :
    Prop where
  trail : Trail manifests s.currentEntryId s.parts.reverse s.entryChain.reverse
  starts : s.entryChain.head? = some entryId
  current : ∃ child, manifests.get s.currentEntryId = some child ∧ child.parent = s.currentParentId
  confinement : s.confinement = outermost manifests s.entryChain.reverse
  seen : ∀ id, id ∈ s.seen ↔ id ∈ s.entryChain

theorem climbed_start (found : manifests.get entryId = some entryManifest) :
    Climbed manifests entryId
      { parts := [], confinement := .notConfined, currentEntryId := entryId
        currentParentId := entryManifest.parent, seen := {entryId}, entryChain := [entryId] } where
  trail := .here
  starts := rfl
  current := ⟨entryManifest, found, rfl⟩
  confinement := rfl
  seen id := by simp

theorem Climbed.next {s : PathRetrieval} {parent : LocalFolderManifest} {name : EntryName}
    (climbed : Climbed manifests entryId s)
    (atParent : manifests.get s.currentParentId = some (.folder parent))
    (listed : parent.children.lookup name = some s.currentEntryId) :
    Climbed manifests entryId (s.next parent name) := by
  obtain ⟨child, atChild, isParent⟩ := climbed.current
  obtain ⟨rest, split⟩ := climbed.trail.ids_eq_cons
  constructor
  · simp only [PathRetrieval.next, List.reverse_append, List.reverse_cons, List.reverse_nil,
      List.nil_append, List.singleton_append]
    exact .down atParent listed atChild isParent climbed.trail
  · simp [PathRetrieval.next, climbed.starts]
  · exact ⟨.folder parent, atParent, rfl⟩
  · simp only [PathRetrieval.next, List.reverse_append, List.reverse_cons, List.reverse_nil,
      List.nil_append, List.singleton_append]
    rw [ascend_eq atParent, climbed.confinement, split]
    rfl
  · intro id
    simp [PathRetrieval.next, climbed.seen, or_comm]

theorem trail_of_retrieveParts {s : PathRetrieval} (climbed : Climbed manifests entryId s)
    {manifest : LocalChildManifest} {path : List EntryName} {confinement : PathConfinementPoint}
    {chain : List VlobID}
    (retrieved : retrieveParts orders manifests entryId entryManifest notFound s =
      .ok (.reachable manifest path confinement chain)) :
    manifest = entryManifest ∧ Trail manifests manifests.rootManifestId path chain ∧
      chain.getLast? = some entryId ∧ confinement = outermost manifests chain := by
  fun_induction retrieveParts orders manifests entryId entryManifest notFound s with
  | case1 s atRoot =>
    cases retrieved
    rw [ManifestsHashMap.rootManifest_id] at atRoot
    have trail := climbed.trail
    rw [atRoot] at trail
    exact ⟨rfl, trail, by simp [climbed.starts], climbed.confinement⟩
  | case4 s below parent atParent name found fresh ih =>
    exact ih (climbed.next atParent (childName_eq_some found)) retrieved
  | case2 => cases retrieved
  | case3 => cases retrieved
  | case5 => cases retrieved
  | case6 => cases retrieved
  | case7 => cases retrieved

theorem head_notMem {before after : List VlobID} {first : VlobID} (nodup : (before ++ after).Nodup)
    (nonempty : before ≠ []) (head : (before ++ after).head? = some first) : first ∉ after := by
  cases before with
  | nil => exact absurd rfl nonempty
  | cons _ rest =>
    cases head
    exact fun member => (List.nodup_append.mp nodup).2.2 first (by simp) first member rfl

/-- A trail from the root without repetition is retrieved, from any point of it. -/
theorem retrieveParts_of_chain (orders : VlobID → HashOrder EntryName)
    (entryManifest : LocalChildManifest) (notFound : Option VlobID) {s : PathRetrieval}
    (climbed : Climbed manifests entryId s) (up : List VlobID)
    (linked : (up.reverse ++ s.entryChain.reverse).IsChain (Linked manifests))
    (nodup : (up.reverse ++ s.entryChain.reverse).Nodup)
    (root : (up.reverse ++ s.entryChain.reverse).head? = some manifests.rootManifestId) :
    ∃ path, retrieveParts orders manifests entryId entryManifest notFound s =
      .ok (.reachable entryManifest path
        (outermost manifests (up.reverse ++ s.entryChain.reverse))
        (up.reverse ++ s.entryChain.reverse)) := by
  obtain ⟨rest, split⟩ := climbed.trail.ids_eq_cons
  induction up generalizing s rest with
  | nil =>
    rw [List.reverse_nil, List.nil_append] at root ⊢
    rw [split, List.head?_cons] at root
    rw [retrieveParts, if_pos, climbed.confinement]
    · exact ⟨_, rfl⟩
    · simpa using root
  | cons parentId up ih =>
    have regroup : (parentId :: up).reverse ++ s.entryChain.reverse =
        up.reverse ++ (parentId :: s.entryChain.reverse) := by simp
    rw [regroup] at linked nodup root ⊢
    have link : Linked manifests parentId s.currentEntryId := by
      have pair := linked.right_of_append
      rw [split] at pair
      exact (List.isChain_cons_cons.mp pair).1
    obtain ⟨parent, child, atParent, listed, atChild, isParent⟩ := link
    obtain ⟨child', atChild', isParent'⟩ := climbed.current
    rw [atChild] at atChild'
    cases atChild'
    have parentHere : s.currentParentId = parentId := isParent'.symm.trans isParent
    obtain ⟨name, found⟩ := childName_of_holds (orders s.currentParentId) listed
    have fresh : s.currentParentId ∉ s.seen := by
      rw [climbed.seen, parentHere, ← List.mem_reverse]
      exact (List.nodup_cons.mp nodup.of_append_right).1
    have below : s.currentEntryId ≠ manifests.rootManifest.base.id := by
      intro same
      rw [ManifestsHashMap.rootManifest_id] at same
      rw [split, List.append_cons] at nodup root
      exact head_notMem nodup (by simp) root (by simp [same])
    rw [← parentHere] at atParent
    have later := climbed.next atParent (childName_eq_some found)
    have chain : (s.next parent name).entryChain.reverse = parentId :: s.entryChain.reverse := by
      simp [PathRetrieval.next, parentHere]
    rw [retrieveParts, if_neg below]
    split
    · rename_i parent' atParent'
      rw [atParent] at atParent'
      cases atParent'
      rw [found]
      simp only [dif_neg fresh]
      rw [← chain] at linked nodup root ⊢
      obtain ⟨rest', split'⟩ := later.trail.ids_eq_cons
      exact ih later linked nodup root rest' split'
    · rename_i other
      rw [atParent] at other
      cases other
    · rename_i other
      rw [atParent] at other
      cases other

theorem retrieveEntry_of_trail (orders : VlobID → HashOrder EntryName) (notFound : Option VlobID)
    {names : List EntryName} {ids : List VlobID}
    (trail : Trail manifests manifests.rootManifestId names ids) (nodup : ids.Nodup)
    (found : manifests.get entryId = some entryManifest) (ends : ids.getLast? = some entryId) :
    ∃ path, retrieveEntry orders manifests entryId notFound =
      .ok (.reachable entryManifest path (outermost manifests ids) ids) := by
  have split : ids.dropLast.reverse.reverse ++ [entryId].reverse = ids := by
    rw [List.reverse_reverse]
    exact List.dropLast_append_getLast? entryId ends
  obtain ⟨rest, first⟩ := trail.ids_eq_cons
  have climb := retrieveParts_of_chain orders entryManifest notFound (climbed_start found)
    ids.dropLast.reverse
  rw [split] at climb
  rw [retrieveEntry, found]
  exact climb trail.linked nodup (by rw [first]; rfl)

/-- Whatever lock is asked for, a retrieved path is the one of the entry. -/
theorem retrieved_iff {cache : CurrentViewCache} {lockForUpdate : Bool}
    {entry : RetrievePathFromIDEntry} {guard : Option VlobID}
    (retrieved : (cacheOnlyRetrievePathFromId orders cache entryId lockForUpdate notFound).1 =
      .done entry guard) :
    retrieveEntry orders cache.manifests entryId notFound = .ok entry := by
  unfold cacheOnlyRetrievePathFromId at retrieved
  split at retrieved
  · cases retrieved
  · rename_i found isEntry
    rw [isEntry]
    split at retrieved
    · split at retrieved
      · cases retrieved
      · cases retrieved
        rfl
    · cases retrieved
      rfl

/-- Whatever lock is asked for, the last step of the resolution gives the outcome. -/
theorem resolved_last {realmId : VlobID} {cache : CurrentViewCache} {path : List EntryName}
    {lockForUpdate : Bool} {manifest : LocalChildManifest} {confinement : PathConfinementPoint}
    {guard : Option VlobID}
    (resolved : (cacheOnlyPathResolution realmId cache path lockForUpdate).1 =
      .done manifest confinement guard) :
    ∃ last, path.foldlM (resolvePart cache.manifests) .root = .ok last ∧
      manifest = last.manifest cache.manifests ∧ confinement = last.confinement := by
  unfold cacheOnlyPathResolution at resolved
  split at resolved
  · rename_i stop _
    cases stop <;> cases resolved
  · rename_i last reached
    refine ⟨last, reached, ?_⟩
    split at resolved
    · split at resolved
      · cases resolved
      · cases resolved
        exact ⟨rfl, rfl⟩
    · cases resolved
      exact ⟨rfl, rfl⟩

/-- The two directions agree: a path that is retrieved leads to the entry, and the entry a path
    leads to is retrieved along the entries that are visited, which are all different. -/
def PathsAgree (realmId : VlobID) (cache : CurrentViewCache) : Prop :=
  (∀ orders entryId lockForUpdate notFound manifest path confinement chain guard,
    (cacheOnlyRetrievePathFromId orders cache entryId lockForUpdate notFound).1 =
        .done (.reachable manifest path confinement chain) guard →
      cache.manifests.get entryId = some manifest ∧
        (cacheOnlyPathResolution realmId cache path false).1 = .done manifest confinement none) ∧
  ∀ orders path lockForUpdate notFound manifest confinement guard,
    (cacheOnlyPathResolution realmId cache path lockForUpdate).1 =
        .done manifest confinement guard →
      (visited cache.manifests path).Nodup ∧
        ∃ path', (cacheOnlyRetrievePathFromId orders cache manifest.id false notFound).1 =
          .done (.reachable manifest path' confinement (visited cache.manifests path)) none

section Agreement
variable {realmId : VlobID} {cache : CurrentViewCache}

theorem resolution_of_trail (realmId : VlobID) {names : List EntryName} {ids : List VlobID}
    (trail : Trail cache.manifests cache.manifests.rootManifestId names ids) :
    ∃ manifest, ids.getLast? = some manifest.id ∧ cache.manifests.get manifest.id = some manifest ∧
      visited cache.manifests names = ids ∧
      (cacheOnlyPathResolution realmId cache names false).1 =
        .done manifest (outermost cache.manifests ids) none := by
  obtain ⟨last, resolved, present, ends, confinement, visits⟩ :=
    resolved_of_trail trail (StepKind.root_present _) (by simp [StepKind.manifest])
  rw [StepKind.confinement, PathConfinementPoint.notConfined_orInner] at confinement
  refine ⟨_, ends, present, visits, ?_⟩
  rw [cacheOnlyPathResolution, resolved, ← confinement]
  rfl

theorem trail_of_retrieval {orders : VlobID → HashOrder EntryName} {entryId : VlobID}
    {notFound : Option VlobID} {manifest : LocalChildManifest} {path : List EntryName}
    {confinement : PathConfinementPoint} {chain : List VlobID}
    (retrieved : retrieveEntry orders manifests entryId notFound =
      .ok (.reachable manifest path confinement chain)) :
    manifests.get entryId = some manifest ∧ Trail manifests manifests.rootManifestId path chain ∧
      chain.getLast? = some entryId ∧ confinement = outermost manifests chain := by
  unfold retrieveEntry at retrieved
  split at retrieved
  · split at retrieved <;> cases retrieved
  · rename_i entryManifest found
    obtain ⟨rfl, trail⟩ := trail_of_retrieveParts (climbed_start found) retrieved
    exact ⟨found, trail⟩

theorem paths_agree_iff :
    PathsAgree realmId cache ↔
      ¬ TransGen (Linked cache.manifests) cache.manifests.rootManifestId
        cache.manifests.rootManifestId := by
  constructor
  · intro agree cycle
    obtain ⟨child, linked, back⟩ := TransGen.head'_iff.mp cycle
    obtain ⟨names, ids, rest, member⟩ := trail_of_reached back
    obtain ⟨parent, manifest, atParent, ⟨name, listed⟩, atChild, isParent⟩ := linked
    obtain ⟨last, -, -, visits, resolved⟩ :=
      resolution_of_trail realmId (Trail.down atParent listed atChild isParent rest)
    have nodup := (agree.2 (fun _ => HashOrder.any _) _ false none _ _ _ resolved).1
    rw [visits] at nodup
    exact (List.nodup_cons.mp nodup).1 member
  · intro acyclic
    constructor
    · intro orders entryId lockForUpdate notFound manifest path confinement chain guard retrieved
      obtain ⟨found, trail, ends, same⟩ := trail_of_retrieval (retrieved_iff retrieved)
      obtain ⟨manifest', ends', found', -, resolved⟩ := resolution_of_trail realmId trail
      rw [ends] at ends'
      rw [← Option.some.inj ends', found] at found'
      cases found'
      rw [same]
      exact ⟨found, resolved⟩
    · intro orders path lockForUpdate notFound manifest confinement guard resolved
      obtain ⟨last, reached, isManifest, isConfinement⟩ := resolved_last resolved
      obtain ⟨ids, trail⟩ := trail_of_resolved (StepKind.root_present _) reached
      obtain ⟨last', again⟩ := resolved_of_trail trail (StepKind.root_present _) rfl
      have sameLast : last' = last := by
        have twice := again.resolved
        rw [reached] at twice
        exact (Except.ok.inj twice).symm
      subst sameLast isManifest isConfinement
      rw [StepKind.manifest, LocalChildManifest.folder_id, ManifestsHashMap.rootManifest_id] at trail
      have nodup : ids.Nodup := by
        obtain ⟨rest, split⟩ := trail.ids_eq_cons
        rw [split]
        have chain := trail.linked
        rw [split] at chain
        exact Forest.chain_nodup (linked_singleParent _) acyclic chain
      obtain ⟨path', retrieved⟩ := retrieveEntry_of_trail orders notFound trail nodup
        again.present again.ends
      rw [visited, again.visits, cacheOnlyRetrievePathFromId, retrieved, again.confinement]
      exact ⟨nodup, path', rfl⟩

end Agreement

/-- Every manifest that a manifest of the cache mentions is in the cache. -/
def Complete (manifests : ManifestsHashMap) : Prop :=
  ∀ id manifest, manifests.get id = some manifest →
    (manifests.get manifest.parent).isSome ∧
      ∀ folder, manifest = .folder folder → ∀ childId, Holds folder.children childId →
        (manifests.get childId).isSome

/-- A root manifest with an entry that is the root itself. -/
def selfListingRoot : LocalFolderManifest where
  base :=
    { author := ⟨0⟩, timestamp := 0, id := ⟨1⟩, parent := ⟨1⟩, version := 1, created := 0
      updated := 0, children := Finmap.singleton entryA ⟨1⟩ }
  parent := ⟨1⟩
  needSync := false
  updated := 0
  children := Finmap.singleton entryA ⟨1⟩
  localConfinementPoints := ∅
  remoteConfinementPoints := ∅
  speculative := false

def selfListingCache : CurrentViewCache := ⟨.new selfListingRoot, ∅⟩

theorem selfListingCache_get (id : VlobID) :
    selfListingCache.manifests.get id = if id = ⟨1⟩ then some (.folder selfListingRoot) else none :=
  lookup_singleton_ite _ _ _

theorem paths_disagree_at_selfListingRoot :
    Complete selfListingCache.manifests ∧ ¬ PathsAgree ⟨1⟩ selfListingCache := by
  constructor
  · intro id manifest found
    rw [selfListingCache_get] at found
    split at found
    · cases found
      refine ⟨by rw [selfListingCache_get]; rfl, ?_⟩
      intro folder same childId listed
      cases same
      obtain ⟨name, found⟩ := listed
      rw [selfListingRoot, lookup_singleton_ite] at found
      split at found
      · cases found
        rw [selfListingCache_get]
        rfl
      · cases found
    · cases found
  · intro agree
    have resolved := agree.2 (fun _ => HashOrder.any _) [entryA] false none
      (.folder selfListingRoot) .notConfined none rfl
    have visits : visited selfListingCache.manifests [entryA] = [⟨1⟩, ⟨1⟩] := rfl
    rw [visits] at resolved
    exact absurd resolved.1 (by decide)

end ParsecCloud

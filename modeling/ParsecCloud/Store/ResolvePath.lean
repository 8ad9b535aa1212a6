import ParsecCloud.Store.Cache

/- From a path to its entry and from an entry to its path, through the manifests in the cache
   (store/resolve_path.rs). -/
namespace ParsecCloud
open Rust HashMap

inductive PathConfinementPoint where
  | notConfined
  | confined (id : VlobID)
  deriving DecidableEq

/-- A guard is the identifier its lock was taken for. -/
inductive CacheOnlyPathResolutionOutcome where
  | done (manifest : LocalChildManifest) (confinement : PathConfinementPoint)
      (maybeUpdateLockGuard : Option VlobID)
  | entryNotFound
  | needPopulateCache (id : VlobID)
  | needWaitForTakenUpdateLock (id : VlobID)

/-- Why the loop over the parts of a path stops before the end. -/
inductive PathResolutionStop where
  | entryNotFound
  | needPopulateCache (id : VlobID)

def PathResolutionStop.outcome : PathResolutionStop → CacheOnlyPathResolutionOutcome
  | entryNotFound => .entryNotFound
  | needPopulateCache id => .needPopulateCache id

inductive StepKind where
  | root
  | child (manifest : LocalChildManifest) (confinement : PathConfinementPoint)

namespace StepKind

def manifest (manifests : ManifestsHashMap) : StepKind → LocalChildManifest
  | root => .folder manifests.rootManifest
  | child manifest _ => manifest

def confinement : StepKind → PathConfinementPoint
  | root => .notConfined
  | child _ confinement => confinement

/-- The lock of the root is the one of the realm. -/
def lockId (realmId : VlobID) : StepKind → VlobID
  | root => realmId
  | child manifest _ => manifest.id

end StepKind

/-- The outermost confinement point stays. -/
def PathConfinementPoint.descend (parent : LocalFolderManifest) (childId : VlobID) :
    PathConfinementPoint → PathConfinementPoint
  | confined id => confined id
  | notConfined =>
    if childId ∈ parent.localConfinementPoints then confined parent.base.id else notConfined

/-- One name of the path. -/
def resolvePart (manifests : ManifestsHashMap) (lastStep : StepKind) (childName : EntryName) :
    Except PathResolutionStop StepKind :=
  match lastStep.manifest manifests with
  | .file _ => .error .entryNotFound
  | .folder parentManifest =>
    match parentManifest.children.lookup childName with
    | none => .error .entryNotFound
    | some childId =>
      match manifests.get childId with
      | none => .error (.needPopulateCache childId)
      | some childManifest =>
        if childManifest.parent ≠ parentManifest.base.id then .error .entryNotFound
        else .ok (.child childManifest (lastStep.confinement.descend parentManifest childId))

def cacheOnlyPathResolution (realmId : VlobID) (cache : CurrentViewCache)
    (pathParts : List EntryName) (lockForUpdate : Bool) :
    CacheOnlyPathResolutionOutcome × CurrentViewCache :=
  match pathParts.foldlM (resolvePart cache.manifests) .root with
  | .error stop => (stop.outcome, cache)
  | .ok lastStep =>
    let manifest := lastStep.manifest cache.manifests
    if lockForUpdate then
      match cache.lockUpdateManifests.take (lastStep.lockId realmId) with
      | none => (.needWaitForTakenUpdateLock (lastStep.lockId realmId), cache)
      | some locks =>
        (.done manifest lastStep.confinement (some (lastStep.lockId realmId)),
          { cache with lockUpdateManifests := locks })
    else (.done manifest lastStep.confinement none, cache)

/-- The entries the resolution of a path goes through, as far as it goes. -/
def visitedFrom (manifests : ManifestsHashMap) : StepKind → List EntryName → List VlobID
  | lastStep, [] => [(lastStep.manifest manifests).id]
  | lastStep, name :: rest =>
    (lastStep.manifest manifests).id ::
      match resolvePart manifests lastStep name with
      | .ok next => visitedFrom manifests next rest
      | .error _ => []

def visited (manifests : ManifestsHashMap) (pathParts : List EntryName) : List VlobID :=
  visitedFrom manifests .root pathParts

inductive RetrievePathFromIDEntry where
  | missing
  | unreachable (manifest : LocalChildManifest)
  | reachable (manifest : LocalChildManifest) (path : List EntryName)
      (confinementPoint : PathConfinementPoint) (entryChain : List VlobID)

inductive CacheOnlyPathRetrievalOutcome where
  | done (entry : RetrievePathFromIDEntry) (maybeUpdateLockGuard : Option VlobID)
  | needPopulateCache (id : VlobID)
  | needWaitForTakenUpdateLock (id : VlobID)

/-- The variables of the loop up to the root. -/
structure PathRetrieval where
  parts : List EntryName
  confinement : PathConfinementPoint
  currentEntryId : VlobID
  currentParentId : VlobID
  seen : Finset VlobID
  entryChain : List VlobID

/-- The root-most confinement point has priority. -/
def PathConfinementPoint.ascend (parent : LocalFolderManifest) (parentId childId : VlobID)
    (confinement : PathConfinementPoint) : PathConfinementPoint :=
  if childId ∈ parent.localConfinementPoints then confined parentId else confinement

def PathRetrieval.next (s : PathRetrieval) (parent : LocalFolderManifest) (childName : EntryName) :
    PathRetrieval :=
  { parts := s.parts ++ [childName]
    confinement := s.confinement.ascend parent s.currentParentId s.currentEntryId
    currentEntryId := s.currentParentId
    currentParentId := parent.parent
    seen := insert s.currentParentId s.seen
    entryChain := s.entryChain ++ [s.currentParentId] }

/-- The loop up to the root; an error is a manifest that has to be populated first. Each turn
    sees one more of the manifests in the cache. -/
def retrieveParts (orders : VlobID → HashOrder EntryName) (manifests : ManifestsHashMap)
    (entryId : VlobID) (entryManifest : LocalChildManifest)
    (lastNotFoundDuringPopulate : Option VlobID) (s : PathRetrieval) :
    Except VlobID RetrievePathFromIDEntry :=
  if s.currentEntryId = manifests.rootManifest.base.id then
    .ok (.reachable entryManifest s.parts.reverse s.confinement s.entryChain.reverse)
  else
    match _present : manifests.get s.currentParentId with
    | some (.folder parentManifest) =>
      match childName (orders s.currentParentId) parentManifest.children s.currentEntryId with
      | none => .ok (.unreachable entryManifest)
      | some childName =>
        if _circular : s.currentParentId ∈ s.seen then .ok (.unreachable entryManifest)
        else
          retrieveParts orders manifests entryId entryManifest lastNotFoundDuringPopulate
            (s.next parentManifest childName)
    | some (.file _) => .ok (.unreachable entryManifest)
    | none =>
      if lastNotFoundDuringPopulate = some entryId then .ok (.unreachable entryManifest)
      else .error s.currentParentId
termination_by (manifests.manifests.keys \ s.seen).card
decreasing_by
  apply Finset.card_lt_card
  rw [PathRetrieval.next, Finset.sdiff_insert]
  apply Finset.erase_ssubset
  exact Finset.mem_sdiff.mpr ⟨mem_keys_iff.mpr ⟨_, _present⟩, _circular⟩

def retrieveEntry (orders : VlobID → HashOrder EntryName) (manifests : ManifestsHashMap)
    (entryId : VlobID) (lastNotFoundDuringPopulate : Option VlobID) :
    Except VlobID RetrievePathFromIDEntry :=
  match manifests.get entryId with
  | none => if lastNotFoundDuringPopulate = some entryId then .ok .missing else .error entryId
  | some entryManifest =>
    retrieveParts orders manifests entryId entryManifest lastNotFoundDuringPopulate
      { parts := [], confinement := .notConfined, currentEntryId := entryId
        currentParentId := entryManifest.parent, seen := {entryId}, entryChain := [entryId] }

def cacheOnlyRetrievePathFromId (orders : VlobID → HashOrder EntryName) (cache : CurrentViewCache)
    (entryId : VlobID) (lockForUpdate : Bool) (lastNotFoundDuringPopulate : Option VlobID) :
    CacheOnlyPathRetrievalOutcome × CurrentViewCache :=
  match retrieveEntry orders cache.manifests entryId lastNotFoundDuringPopulate with
  | .error id => (.needPopulateCache id, cache)
  | .ok entry =>
    if lockForUpdate then
      match cache.lockUpdateManifests.take entryId with
      | none => (.needWaitForTakenUpdateLock entryId, cache)
      | some locks => (.done entry (some entryId), { cache with lockUpdateManifests := locks })
    else (.done entry none, cache)

end ParsecCloud

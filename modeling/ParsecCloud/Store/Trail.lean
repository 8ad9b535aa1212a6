import ParsecCloud.Lib.Forest
import ParsecCloud.Store.ResolvePath

/- What the resolution of a path and the retrieval of a path have in common: the trail of
   entries between the root and an entry where each parent and its child agree. -/
namespace ParsecCloud
open Rust HashMap Relation

/-- The parent lists the child, and the child has it for parent. -/
def Linked (manifests : ManifestsHashMap) (parentId childId : VlobID) : Prop :=
  ∃ parent child, manifests.get parentId = some (.folder parent) ∧
    Holds parent.children childId ∧ manifests.get childId = some child ∧ child.parent = parentId

theorem linked_singleParent (manifests : ManifestsHashMap) :
    Forest.SingleParent (Linked manifests) := by
  intro p q c first second
  obtain ⟨_, child, -, -, found, isParent⟩ := first
  obtain ⟨_, child', -, -, found', isParent'⟩ := second
  rw [found] at found'
  cases found'
  rw [← isParent, ← isParent']

/-- The names from an entry down to another one, and the entries on the way, both ends
    included. -/
inductive Trail (manifests : ManifestsHashMap) :
    VlobID → List EntryName → List VlobID → Prop where
  | here {id : VlobID} : Trail manifests id [] [id]
  | down {parentId childId : VlobID} {parent : LocalFolderManifest} {child : LocalChildManifest}
      {name : EntryName} {names : List EntryName} {ids : List VlobID} :
      manifests.get parentId = some (.folder parent) →
      parent.children.lookup name = some childId →
      manifests.get childId = some child → child.parent = parentId →
      Trail manifests childId names ids → Trail manifests parentId (name :: names) (parentId :: ids)

variable {manifests : ManifestsHashMap} {id target : VlobID} {names : List EntryName}
  {ids : List VlobID}

theorem Trail.ids_eq_cons (trail : Trail manifests id names ids) : ∃ rest, ids = id :: rest := by
  cases trail with
  | here => exact ⟨[], rfl⟩
  | down _ _ _ _ rest => exact ⟨_, rfl⟩

theorem Trail.linked (trail : Trail manifests id names ids) : ids.IsChain (Linked manifests) := by
  induction trail with
  | here => exact List.isChain_singleton _
  | down atParent listed atChild isParent rest ih =>
    obtain ⟨later, split⟩ := rest.ids_eq_cons
    rw [split] at ih ⊢
    exact List.isChain_cons_cons.mpr ⟨⟨_, _, atParent, ⟨_, listed⟩, atChild, isParent⟩, ih⟩

theorem trail_of_reached (reached : ReflTransGen (Linked manifests) id target) :
    ∃ names ids, Trail manifests id names ids ∧ target ∈ ids := by
  induction reached using ReflTransGen.head_induction_on with
  | refl => exact ⟨[], _, .here, by simp⟩
  | head linked _ ih =>
    obtain ⟨parent, child, atParent, ⟨name, listed⟩, atChild, isParent⟩ := linked
    obtain ⟨names, ids, trail, member⟩ := ih
    exact ⟨name :: names, _, .down atParent listed atChild isParent trail, by simp [member]⟩

namespace PathConfinementPoint

/-- The outer confinement point, or else the inner one. -/
def orInner : PathConfinementPoint → PathConfinementPoint → PathConfinementPoint
  | confined id, _ => confined id
  | notConfined, inner => inner

@[simp] theorem notConfined_orInner (inner : PathConfinementPoint) :
    notConfined.orInner inner = inner := rfl

@[simp] theorem orInner_notConfined (outer : PathConfinementPoint) :
    outer.orInner notConfined = outer := by
  cases outer <;> rfl

theorem orInner_assoc (a b c : PathConfinementPoint) :
    (a.orInner b).orInner c = a.orInner (b.orInner c) := by
  cases a <;> rfl

end PathConfinementPoint

/-- Whether the parent confines the child. -/
def confinementOf (manifests : ManifestsHashMap) (parentId childId : VlobID) :
    PathConfinementPoint :=
  match manifests.get parentId with
  | some (.folder parent) =>
    if childId ∈ parent.localConfinementPoints then .confined parentId else .notConfined
  | _ => .notConfined

def outermost (manifests : ManifestsHashMap) : List VlobID → PathConfinementPoint
  | parentId :: childId :: rest =>
    (confinementOf manifests parentId childId).orInner (outermost manifests (childId :: rest))
  | _ => .notConfined

section Confinement
variable {parent : LocalFolderManifest} {parentId childId : VlobID}

theorem descend_eq (found : manifests.get parentId = some (.folder parent))
    (confinement : PathConfinementPoint) :
    confinement.descend parent childId =
      confinement.orInner (confinementOf manifests parentId childId) := by
  have same : parent.base.id = parentId := ManifestsHashMap.id_of_get found
  cases confinement with
  | confined id => rfl
  | notConfined => simp [PathConfinementPoint.descend, confinementOf, found, same]

theorem ascend_eq (found : manifests.get parentId = some (.folder parent))
    (confinement : PathConfinementPoint) :
    confinement.ascend parent parentId childId =
      (confinementOf manifests parentId childId).orInner confinement := by
  simp only [PathConfinementPoint.ascend, confinementOf, found]
  split
  · rfl
  · rfl

end Confinement

/-- The manifest of the step is the one in the cache. -/
def StepKind.Present (manifests : ManifestsHashMap) (step : StepKind) : Prop :=
  manifests.get (step.manifest manifests).id = some (step.manifest manifests)

theorem StepKind.root_present (manifests : ManifestsHashMap) :
    StepKind.root.Present manifests := by
  simp only [Present, manifest, LocalChildManifest.folder_id, ManifestsHashMap.rootManifest_id]
  exact manifests.get_root

theorem resolvePart_eq_ok {step next : StepKind} {name : EntryName} :
    resolvePart manifests step name = .ok next ↔
      ∃ parent childId child, step.manifest manifests = .folder parent ∧
        parent.children.lookup name = some childId ∧ manifests.get childId = some child ∧
        child.parent = parent.base.id ∧
        next = .child child (step.confinement.descend parent childId) := by
  unfold resolvePart
  constructor
  · intro resolved
    split at resolved
    · cases resolved
    · rename_i parent isFolder
      split at resolved
      · cases resolved
      · rename_i childId listed
        split at resolved
        · cases resolved
        · rename_i child found
          split at resolved
          · cases resolved
          · rename_i agrees
            cases resolved
            exact ⟨parent, childId, child, isFolder, listed, found, not_not.mp agrees, rfl⟩
  · intro resolved
    obtain ⟨parent, childId, child, isFolder, listed, found, agrees, rfl⟩ := resolved
    simp [isFolder, listed, found, agrees]

theorem trail_of_resolved {step last : StepKind} (present : step.Present manifests)
    (resolved : names.foldlM (resolvePart manifests) step = .ok last) :
    ∃ ids, Trail manifests (step.manifest manifests).id names ids := by
  induction names generalizing step with
  | nil => exact ⟨_, .here⟩
  | cons name names ih =>
    rw [List.foldlM_cons] at resolved
    obtain ⟨next, first, rest⟩ := bind_eq_ok.mp resolved
    obtain ⟨parent, childId, child, isFolder, listed, found, agrees, rfl⟩ := resolvePart_eq_ok.mp first
    have childHere : child.id = childId := ManifestsHashMap.id_of_get found
    have present' : (StepKind.child child
        (step.confinement.descend parent childId)).Present manifests := by
      simpa only [StepKind.Present, StepKind.manifest, childHere] using found
    obtain ⟨ids, trail⟩ := ih present' rest
    rw [StepKind.Present, isFolder, LocalChildManifest.folder_id] at present
    rw [StepKind.manifest, childHere] at trail
    rw [isFolder, LocalChildManifest.folder_id]
    exact ⟨_, .down present listed found agrees trail⟩

/-- What the resolution of a path along a trail gives. -/
structure ResolvesTo (manifests : ManifestsHashMap) (step : StepKind) (names : List EntryName)
    (ids : List VlobID) (last : StepKind) : Prop where
  resolved : names.foldlM (resolvePart manifests) step = .ok last
  present : last.Present manifests
  ends : ids.getLast? = some (last.manifest manifests).id
  confinement : last.confinement = step.confinement.orInner (outermost manifests ids)
  visits : visitedFrom manifests step names = ids

theorem resolved_of_trail (trail : Trail manifests id names ids) {step : StepKind}
    (present : step.Present manifests) (here : (step.manifest manifests).id = id) :
    ∃ last, ResolvesTo manifests step names ids last := by
  induction trail generalizing step with
  | here =>
    refine ⟨step, rfl, present, by rw [here]; rfl, ?_, by rw [visitedFrom, here]⟩
    simp [outermost]
  | @down parentId childId parent child name names ids atParent listed atChild isParent rest ih =>
    rw [StepKind.Present, here, atParent] at present
    have isFolder : step.manifest manifests = .folder parent := (Option.some.inj present).symm
    have parentHere : parent.base.id = parentId := ManifestsHashMap.id_of_get atParent
    have childHere : child.id = childId := ManifestsHashMap.id_of_get atChild
    have first : resolvePart manifests step name =
        .ok (.child child (step.confinement.descend parent childId)) :=
      resolvePart_eq_ok.mpr ⟨parent, childId, child, isFolder, listed, atChild,
        by rw [isParent, parentHere], rfl⟩
    obtain ⟨last, resolved, lastPresent, ends, confinement, visits⟩ :=
      @ih (.child child (step.confinement.descend parent childId))
        (by simpa only [StepKind.Present, StepKind.manifest, childHere] using atChild) childHere
    obtain ⟨later, split⟩ := rest.ids_eq_cons
    refine ⟨last, ?_, lastPresent, ?_, ?_, ?_⟩
    · rw [List.foldlM_cons, first]
      exact resolved
    · rw [split, List.getLast?_cons_cons, ← split]
      exact ends
    · rw [confinement, StepKind.confinement, descend_eq atParent, PathConfinementPoint.orInner_assoc,
        split]
      rfl
    · rw [visitedFrom, first, here]
      simp only [visits]

end ParsecCloud

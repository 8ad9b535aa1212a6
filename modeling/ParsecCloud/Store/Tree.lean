import ParsecCloud.Lib.Forest
import ParsecCloud.Store.Cache

/- The tree of the entries of a workspace, over all the manifests that can be obtained. -/
namespace ParsecCloud
open Rust HashMap Relation

/-- The manifest of each entry that has one. -/
abbrev View := VlobID → Option LocalChildManifest

/-- The folder lists an entry that has a manifest. -/
def Lists (view : View) (parentId childId : VlobID) : Prop :=
  ∃ parent child, view parentId = some (.folder parent) ∧ Holds parent.children childId ∧
    view childId = some child

/-- The entry is the top one, or it is listed somewhere below. -/
def Above (view : View) (topId entryId : VlobID) : Prop := ReflTransGen (Lists view) topId entryId

/-- Each entry that is reached from the root has the folder that lists it for parent, and no
    folder that is reached lists an entry twice. -/
structure AgreeingTree (view : View) (rootId : VlobID) : Prop where
  agrees : ∀ parentId childId child, Above view rootId parentId → Lists view parentId childId →
    view childId = some child → child.parent = parentId
  listedOnce : ∀ parentId parent, Above view rootId parentId →
    view parentId = some (.folder parent) → Injective parent.children

/-- The entry that a path leads to. -/
inductive At (view : View) (rootId : VlobID) : List EntryName → VlobID → Prop where
  | root : At view rootId [] rootId
  | child {path : List EntryName} {name : EntryName} {parentId childId : VlobID}
      {parent : LocalFolderManifest} {child : LocalChildManifest} :
      At view rootId path parentId → view parentId = some (.folder parent) →
      parent.children.lookup name = some childId → view childId = some child →
      child.parent = parentId → At view rootId (path ++ [name]) childId

variable {view : View} {rootId : VlobID}

theorem At.inv {path : List EntryName} {name : EntryName} {childId : VlobID}
    (atChild : At view rootId (path ++ [name]) childId) :
    ∃ parentId parent child, At view rootId path parentId ∧
      view parentId = some (.folder parent) ∧ parent.children.lookup name = some childId ∧
      view childId = some child ∧ child.parent = parentId := by
  generalize whole : path ++ [name] = names at atChild
  cases atChild with
  | root => simp at whole
  | child atParent isFolder listed found isParent =>
    obtain ⟨rfl, rfl⟩ : _ = _ ∧ _ = _ := by simpa using List.append_inj' whole rfl
    exact ⟨_, _, _, atParent, isFolder, listed, found, isParent⟩

theorem At.unique {path : List EntryName} {id other : VlobID} (first : At view rootId path id)
    (second : At view rootId path other) : id = other := by
  induction first generalizing other with
  | root =>
    generalize whole : ([] : List EntryName) = names at second
    cases second with
    | root => rfl
    | child => simp at whole
  | child _ isFolder listed _ _ ih =>
    obtain ⟨parentId, parent, child, atParent, isFolder', listed', -, -⟩ := second.inv
    cases ih atParent
    rw [isFolder] at isFolder'
    cases isFolder'
    rw [listed] at listed'
    exact Option.some.inj listed'

theorem At.above {path : List EntryName} {id : VlobID} (reached : At view rootId path id) :
    Above view rootId id := by
  induction reached with
  | root => exact .refl
  | child _ isFolder listed found _ ih => exact ih.tail ⟨_, _, isFolder, ⟨_, listed⟩, found⟩

/-- The folder lists the entry, which has it for parent. -/
def Agreed (view : View) (parentId childId : VlobID) : Prop :=
  Lists view parentId childId ∧ ∃ child, view childId = some child ∧ child.parent = parentId

theorem agreed_singleParent (view : View) : Forest.SingleParent (Agreed view) := by
  intro p q c first second
  obtain ⟨-, child, found, isParent⟩ := first
  obtain ⟨-, child', found', isParent'⟩ := second
  rw [found] at found'
  cases found'
  rw [← isParent, ← isParent']

theorem Above.of_agreed {topId entryId : VlobID}
    (above : ReflTransGen (Agreed view) topId entryId) : Above view topId entryId := by
  induction above with
  | refl => exact .refl
  | tail _ agreed ih => exact ih.tail agreed.1

theorem AgreeingTree.agreed (tree : AgreeingTree view rootId) {parentId childId : VlobID}
    (reached : Above view rootId parentId) (lists : Lists view parentId childId) :
    Agreed view parentId childId := by
  obtain ⟨parent, child, isFolder, listed, found⟩ := lists
  exact ⟨⟨parent, child, isFolder, listed, found⟩, child, found,
    tree.agrees _ _ _ reached ⟨parent, child, isFolder, listed, found⟩ found⟩

/-- Below an entry that is reached, entries that are listed have the folder for parent. -/
theorem AgreeingTree.above_iff (tree : AgreeingTree view rootId) {topId entryId : VlobID}
    (reached : Above view rootId topId) :
    Above view topId entryId ↔ ReflTransGen (Agreed view) topId entryId := by
  constructor
  · intro above
    induction above with
    | refl => exact .refl
    | tail before lists ih => exact ih.tail (tree.agreed (reached.trans before) lists)
  · exact Above.of_agreed

/-- The entry that a folder has under a name. -/
def childAt (view : View) (parentId : VlobID) (name : EntryName) : Option VlobID :=
  match view parentId with
  | some (.folder parent) => parent.children.lookup name
  | _ => none

def parentAt (view : View) (id : VlobID) : Option VlobID := (view id).map LocalChildManifest.parent

theorem childAt_eq_some {parentId childId : VlobID} {name : EntryName} :
    childAt view parentId name = some childId ↔
      ∃ parent, view parentId = some (.folder parent) ∧
        parent.children.lookup name = some childId := by
  unfold childAt
  split
  · rename_i parent isFolder
    simp [isFolder]
  · rename_i noFolder
    simp only [reduceCtorEq, false_iff, not_exists, not_and]
    intro parent isFolder
    exact absurd isFolder (noFolder parent)

theorem lists_iff {parentId childId : VlobID} :
    Lists view parentId childId ↔
      (∃ name, childAt view parentId name = some childId) ∧ (parentAt view childId).isSome = true := by
  simp only [childAt_eq_some, parentAt, Option.isSome_map, Option.isSome_iff_exists]
  constructor
  · rintro ⟨parent, child, isFolder, ⟨name, listed⟩, found⟩
    exact ⟨⟨name, parent, isFolder, listed⟩, child, found⟩
  · rintro ⟨⟨name, parent, isFolder, listed⟩, child, found⟩
    exact ⟨parent, child, isFolder, ⟨name, listed⟩, found⟩

theorem agreed_iff {parentId childId : VlobID} :
    Agreed view parentId childId ↔
      (∃ name, childAt view parentId name = some childId) ∧
        parentAt view childId = some parentId := by
  rw [Agreed, lists_iff, parentAt, Option.map_eq_some_iff]
  constructor
  · rintro ⟨⟨named, -⟩, isParent⟩
    exact ⟨named, isParent⟩
  · rintro ⟨named, child, found, isParent⟩
    exact ⟨⟨named, by simp [found]⟩, child, found, isParent⟩

namespace AgreeingTree
variable (tree : AgreeingTree view rootId)
include tree

theorem parent_of_listed {parentId childId : VlobID} (reached : Above view rootId parentId)
    (lists : Lists view parentId childId) : parentAt view childId = some parentId :=
  (agreed_iff.mp (tree.agreed reached lists)).2

theorem name_unique {parentId childId : VlobID} {name other : EntryName}
    (reached : Above view rootId parentId) (first : childAt view parentId name = some childId)
    (second : childAt view parentId other = some childId) : name = other := by
  obtain ⟨parent, isFolder, listed⟩ := childAt_eq_some.mp first
  obtain ⟨parent', isFolder', listed'⟩ := childAt_eq_some.mp second
  rw [isFolder] at isFolder'
  cases isFolder'
  exact tree.listedOnce _ _ reached isFolder _ _ _ listed listed'

end AgreeingTree

theorem At.step {path : List EntryName} {name : EntryName} {parentId childId : VlobID}
    (atParent : At view rootId path parentId) (named : childAt view parentId name = some childId)
    (isParent : parentAt view childId = some parentId) : At view rootId (path ++ [name]) childId := by
  obtain ⟨parent, isFolder, listed⟩ := childAt_eq_some.mp named
  obtain ⟨child, found, same⟩ := Option.map_eq_some_iff.mp isParent
  exact .child atParent isFolder listed found same

theorem At.step_inv {path : List EntryName} {name : EntryName} {parentId childId : VlobID}
    (atParent : At view rootId path parentId) (atChild : At view rootId (path ++ [name]) childId) :
    childAt view parentId name = some childId ∧ parentAt view childId = some parentId := by
  obtain ⟨other, parent, child, atOther, isFolder, listed, found, same⟩ := atChild.inv
  cases atOther.unique atParent
  exact ⟨childAt_eq_some.mpr ⟨parent, isFolder, listed⟩, Option.map_eq_some_iff.mpr ⟨child, found, same⟩⟩

end ParsecCloud

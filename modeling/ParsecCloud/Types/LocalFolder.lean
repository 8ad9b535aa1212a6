import ParsecCloud.Lib.HashMap
import ParsecCloud.Types.EntryName
import ParsecCloud.Types.Manifest

/- Folder manifests (libparsec_types, manifest.rs and local_manifest/folder.rs). Hash maps are
   walked through in any order, so the orders are a parameter of what walks through one and
   inserts, removes or asserts on the way. -/
namespace ParsecCloud
open Rust HashMap

abbrev Children := HashMap EntryName VlobID

/-- A compiled regular expression stands for the strings it matches. -/
abbrev Regex := List Char → Bool

structure PreventSyncPattern where
  regexes : List Regex

def PreventSyncPattern.isMatch (pattern : PreventSyncPattern) (name : EntryName) : Bool :=
  pattern.regexes.any fun regex => regex name.chars

structure FolderManifest where
  author : DeviceID
  timestamp : DateTime
  id : VlobID
  parent : VlobID
  version : Nat
  created : DateTime
  updated : DateTime
  children : Children

inductive ChildManifest where
  | file (manifest : FileManifest)
  | folder (manifest : FolderManifest)

structure LocalFolderManifest where
  base : FolderManifest
  parent : VlobID
  needSync : Bool
  updated : DateTime
  children : Children
  localConfinementPoints : Finset VlobID
  remoteConfinementPoints : Finset VlobID
  speculative : Bool

structure UnconfinedLocalFolderManifest where
  base : FolderManifest
  parent : VlobID
  needSync : Bool
  updated : DateTime
  children : Children
  speculative : Bool

/-- The order of each walk of one call. -/
structure FolderOrders where
  base : HashOrder EntryName
  existing : HashOrder EntryName
  reverse : HashOrder EntryName
  removals : HashOrder EntryName
  additions : HashOrder EntryName

/-- New entries by name, and none for the names to remove. -/
abbrev ChildrenChanges := HashMap EntryName (Option VlobID)

namespace LocalFolderManifest

/-- The loops of evolve_children_and_mark_updated. -/
structure Evolving where
  children : Children
  localConfinementPoints : Finset VlobID
  actuallyUpdated : Bool

def removeOld (data : ChildrenChanges) (s : Evolving) (name : EntryName) : Checked Evolving :=
  match s.children.lookup name with
  | none => do
    assert (data.lookup name).join.isSome "entry_id.is_some()"
    return s
  | some oldEntryId =>
    return { children := s.children.erase name
             localConfinementPoints := s.localConfinementPoints.erase oldEntryId
             actuallyUpdated := s.actuallyUpdated || oldEntryId ∉ s.localConfinementPoints }

def addNew (preventSyncPattern : PreventSyncPattern) (data : ChildrenChanges) (s : Evolving)
    (name : EntryName) : Evolving :=
  match data.lookup name with
  | some (some entryId) =>
    if preventSyncPattern.isMatch name then
      { s with
        children := s.children.insert name entryId
        localConfinementPoints := insert entryId s.localConfinementPoints }
    else { s with children := s.children.insert name entryId, actuallyUpdated := true }
  | _ => s

def evolveChildrenAndMarkUpdated (orders : FolderOrders) (data : ChildrenChanges)
    (preventSyncPattern : PreventSyncPattern) (timestamp : DateTime) (m : LocalFolderManifest) :
    Checked LocalFolderManifest := do
  let removed ← (orders.removals.list data.keys).foldlM (removeOld data)
    { children := m.children, localConfinementPoints := m.localConfinementPoints
      actuallyUpdated := false }
  assert ((Finset.eraseNone data.values ∩ removed.children.values).card == 0) "no duplicated id"
  let added := (orders.additions.list data.keys).foldl (addNew preventSyncPattern data) removed
  let evolved := { m with
    children := added.children, localConfinementPoints := added.localConfinementPoints }
  if added.actuallyUpdated then return { evolved with needSync := true, updated := timestamp }
  else return evolved

end LocalFolderManifest

namespace UnconfinedLocalFolderManifest

def fromRemote (remote : FolderManifest) : UnconfinedLocalFolderManifest :=
  { parent := remote.parent, needSync := false, updated := remote.updated
    children := remote.children, speculative := false, base := remote }

def intoRemote (m : UnconfinedLocalFolderManifest) (author : DeviceID) (timestamp : DateTime) :
    FolderManifest :=
  { author := author, timestamp := timestamp, id := m.base.id, version := m.base.version + 1
    created := m.base.created, parent := m.parent, updated := m.updated, children := m.children }

def applyConfinementFromRemote (remote : FolderManifest) (preventSyncPattern : PreventSyncPattern) :
    LocalFolderManifest :=
  { parent := remote.parent, needSync := false, updated := remote.updated
    children := remote.children.retain fun name _ => !preventSyncPattern.isMatch name
    localConfinementPoints := ∅
    remoteConfinementPoints := remote.children.valuesAt preventSyncPattern.isMatch
    speculative := false, base := remote }

/-- A base entry that matches the pattern is taken out of the new children. -/
def hideBaseEntry (preventSyncPattern : PreventSyncPattern) (base newChildren : Children)
    (name : EntryName) : Children :=
  match base.lookup name with
  | none => newChildren
  | some entryId =>
    if preventSyncPattern.isMatch name ∧ newChildren.lookup name = some entryId then
      newChildren.erase name
    else newChildren

/-- The base entries that match the pattern, taken out of the new children. -/
def hideBaseEntries (orders : FolderOrders) (preventSyncPattern : PreventSyncPattern)
    (base newChildren : Children) : Children :=
  (orders.base.list base.keys).foldl (hideBaseEntry preventSyncPattern base) newChildren

/-- The new manifest, before any existing entry is restored. -/
def newManifest (orders : FolderOrders) (m : UnconfinedLocalFolderManifest)
    (preventSyncPattern : PreventSyncPattern) : LocalFolderManifest :=
  let newChildren := hideBaseEntries orders preventSyncPattern m.base.children m.children
  { base := m.base, parent := m.parent, needSync := m.needSync, updated := m.updated
    children := newChildren
    localConfinementPoints := newChildren.valuesAt preventSyncPattern.isMatch
    remoteConfinementPoints := m.base.children.valuesAt preventSyncPattern.isMatch
    speculative := m.speculative }

/-- The changes that restore existing entries, and the names of the ids so far. -/
structure Restoring where
  changes : ChildrenChanges
  newEntryIds : HashMap VlobID EntryName

/-- A name the id already has is removed. -/
def Restoring.removePrevious (s : Restoring) (entryId : VlobID) : ChildrenChanges :=
  match s.newEntryIds.lookup entryId with
  | some previousName => s.changes.insert previousName none
  | none => s.changes

/-- Locally confined entries keep their names. -/
def Restoring.restoreConfined (s : Restoring) (existing : LocalFolderManifest) (name : EntryName)
    (entryId : VlobID) : Restoring :=
  if entryId ∈ existing.localConfinementPoints ∧ s.newEntryIds.lookup entryId ≠ some name then
    { changes := (s.removePrevious entryId).insert name (some entryId)
      newEntryIds := s.newEntryIds.insert entryId name }
  else s

/-- Entries that have just been hidden come back as confined ones. -/
def Restoring.restoreHidden (s : Restoring) (preventSyncPattern : PreventSyncPattern)
    (remoteConfinementPoints : Finset VlobID) (name : EntryName) (entryId : VlobID) : Restoring :=
  if entryId ∉ s.newEntryIds.keys ∧ entryId ∈ remoteConfinementPoints ∧
      preventSyncPattern.isMatch name then
    { changes := s.changes.insert name (some entryId)
      newEntryIds := s.newEntryIds.insert entryId name }
  else s

def restoreOne (preventSyncPattern : PreventSyncPattern) (existing : LocalFolderManifest)
    (remoteConfinementPoints : Finset VlobID) (s : Restoring) (name : EntryName) : Restoring :=
  match existing.children.lookup name with
  | none => s
  | some entryId =>
    (s.restoreConfined existing name entryId).restoreHidden preventSyncPattern
      remoteConfinementPoints name entryId

/-- The changes that restore the existing entries that have to be. -/
def restoreExisting (orders : FolderOrders) (preventSyncPattern : PreventSyncPattern)
    (existing newManifest : LocalFolderManifest) : Restoring :=
  (orders.existing.list existing.children.keys).foldl
    (restoreOne preventSyncPattern existing newManifest.remoteConfinementPoints)
    { changes := ∅, newEntryIds := reversed orders.reverse newManifest.children }

def applyConfinement (orders : FolderOrders) (m : UnconfinedLocalFolderManifest)
    (existing : LocalFolderManifest) (preventSyncPattern : PreventSyncPattern)
    (timestamp : DateTime) : Checked LocalFolderManifest :=
  let newManifest := newManifest orders m preventSyncPattern
  if existing.localConfinementPoints ≠ ∅ ∨ newManifest.remoteConfinementPoints ≠ ∅ then
    newManifest.evolveChildrenAndMarkUpdated orders
      (restoreExisting orders preventSyncPattern existing newManifest).changes
      preventSyncPattern timestamp
  else .ok newManifest

def withoutConfinedEntries (m : LocalFolderManifest) : Children :=
  if m.localConfinementPoints ≠ ∅ then
    m.children.retain fun _ entryId => entryId ∉ m.localConfinementPoints
  else m.children

/-- A base entry to restore, because it has only been hidden. -/
def hiddenEntry (m : LocalFolderManifest) (existingEntries : Finset VlobID) (name : EntryName) :
    Option (EntryName × VlobID) :=
  match m.base.children.lookup name with
  | none => none
  | some entryId =>
    if entryId ∈ m.remoteConfinementPoints ∧ entryId ∉ existingEntries then some (name, entryId)
    else none

def removeConfinement (orders : FolderOrders) (m : LocalFolderManifest) :
    UnconfinedLocalFolderManifest :=
  let newChildren := withoutConfinedEntries m
  let newChildren :=
    if m.remoteConfinementPoints ≠ ∅ then
      placeAll (hiddenEntry m newChildren.values) (orders.base.list m.base.children.keys) newChildren
    else newChildren
  { base := m.base, parent := m.parent, needSync := m.needSync, updated := m.updated
    children := newChildren, speculative := m.speculative }

end UnconfinedLocalFolderManifest

namespace LocalFolderManifest
open UnconfinedLocalFolderManifest

def applyPreventSyncPattern (orders : FolderOrders) (m : LocalFolderManifest)
    (preventSyncPattern : PreventSyncPattern) (timestamp : DateTime) : Checked LocalFolderManifest :=
  (removeConfinement orders m).applyConfinement orders m preventSyncPattern timestamp

def fromRemote (remote : FolderManifest) (preventSyncPattern : PreventSyncPattern) :
    LocalFolderManifest :=
  applyConfinementFromRemote remote preventSyncPattern

def fromRemoteWithRestoredLocalConfinementPoints (orders : FolderOrders) (remote : FolderManifest)
    (preventSyncPattern : PreventSyncPattern) (localManifest : LocalFolderManifest)
    (timestamp : DateTime) : Checked LocalFolderManifest :=
  (UnconfinedLocalFolderManifest.fromRemote remote).applyConfinement orders localManifest
    preventSyncPattern timestamp

def toRemote (orders : FolderOrders) (m : LocalFolderManifest) (author : DeviceID)
    (timestamp : DateTime) : FolderManifest :=
  (removeConfinement orders m).intoRemote author timestamp

end LocalFolderManifest
end ParsecCloud

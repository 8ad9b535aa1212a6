import ParsecCloud.PlatformStorage.Native
import ParsecCloud.Server.Datamodel
import ParsecCloud.Lib.Runs

/- The remote versions known by a workspace storage. A refresh of the realm checkpoint reads the
   stored checkpoint, polls the changes from the server and stores them later; other refreshes, the
   acknowledgments of uploads and the merges of fetched versions write the storage meanwhile. -/
namespace ParsecCloud.PlatformStorage
open Server Runs

section Server
variable {updates front back : List MemoryRealmVlobUpdate} {update : MemoryRealmVlobUpdate}
  {id : VlobID}

def pollItems (updates : List MemoryRealmVlobUpdate) : Dict VlobID (VlobID × Nat) :=
  updates.foldl
    (fun items update =>
      items.set update.vlobAtom.vlobId (update.vlobAtom.vlobId, update.vlobAtom.version))
    .empty

/-- The answer of the server to an author that is allowed to read the realm (memory/vlob.py). -/
def pollChanges (updates : List MemoryRealmVlobUpdate) (checkpoint : Nat) :
    Nat × List (VlobID × Nat) :=
  (updates.length, (pollItems (updates.drop checkpoint)).values)

/-- The version of a vlob on the server, zero when there is none. -/
def serverVersion (updates : List MemoryRealmVlobUpdate) (id : VlobID) : Nat :=
  match updates.reverse.find? fun update => update.vlobAtom.vlobId = id with
  | some update => update.vlobAtom.version
  | none => 0

def IsChanged (updates : List MemoryRealmVlobUpdate) (id : VlobID) : Prop :=
  ∃ update ∈ updates, update.vlobAtom.vlobId = id

theorem serverVersion_append_last :
    serverVersion (updates ++ [update]) id =
      if update.vlobAtom.vlobId = id then update.vlobAtom.version
      else serverVersion updates id := by
  unfold serverVersion
  rw [List.reverse_append, List.reverse_singleton, List.singleton_append, List.find?_cons]
  by_cases same : update.vlobAtom.vlobId = id
  · rw [decide_eq_true same, if_pos same]
  · rw [decide_eq_false same, if_neg same]

theorem serverVersion_append_unchanged (unchanged : ¬ IsChanged back id) :
    serverVersion (front ++ back) id = serverVersion front id := by
  induction back using List.reverseRecOn with
  | nil => rw [List.append_nil]
  | append_singleton rest update ih =>
    rw [← List.append_assoc, serverVersion_append_last, if_neg]
    · apply ih
      intro changed
      obtain ⟨other, member, isId⟩ := changed
      exact unchanged ⟨other, List.mem_append_left _ member, isId⟩
    · intro isId
      exact unchanged ⟨update, List.mem_append_right _ (List.mem_singleton_self _), isId⟩

theorem serverVersion_append_changed (changed : IsChanged back id) :
    serverVersion (front ++ back) id = serverVersion back id := by
  induction back using List.reverseRecOn with
  | nil =>
    obtain ⟨update, member, -⟩ := changed
    cases member
  | append_singleton rest update ih =>
    rw [← List.append_assoc, serverVersion_append_last, serverVersion_append_last]
    split
    · rfl
    · rename_i apart
      apply ih
      obtain ⟨other, member, isId⟩ := changed
      rcases List.mem_append.mp member with isRest | isLast
      · exact ⟨other, isRest, isId⟩
      · rw [List.mem_singleton.mp isLast] at isId
        exact absurd isId apart

theorem pollItems_append_last :
    pollItems (updates ++ [update]) = (pollItems updates).set update.vlobAtom.vlobId
      (update.vlobAtom.vlobId, update.vlobAtom.version) := by
  unfold pollItems
  rw [List.foldl_append]
  rfl

theorem pollItems_get? {change : VlobID × Nat} :
    (pollItems updates).get? id = some change ↔
      IsChanged updates id ∧ change = (id, serverVersion updates id) := by
  induction updates using List.reverseRecOn with
  | nil =>
    constructor
    · intro found
      cases found
    · intro isChange
      obtain ⟨⟨update, member, -⟩, -⟩ := isChange
      cases member
  | append_singleton rest update ih =>
    rw [pollItems_append_last, Dict.get?_set, serverVersion_append_last]
    by_cases same : id = update.vlobAtom.vlobId
    · rw [if_pos same, if_pos same.symm, ← same]
      constructor
      · intro isChange
        cases isChange
        exact ⟨⟨update, List.mem_append_right _ (List.mem_singleton_self _), same.symm⟩, rfl⟩
      · intro isChange
        rw [isChange.2]
    · rw [if_neg same, if_neg (Ne.symm same), ih]
      apply and_congr_left
      intro _
      constructor
      · intro changed
        obtain ⟨other, member, isId⟩ := changed
        exact ⟨other, List.mem_append_left _ member, isId⟩
      · intro changed
        obtain ⟨other, member, isId⟩ := changed
        rcases List.mem_append.mp member with isRest | isLast
        · exact ⟨other, isRest, isId⟩
        · rw [List.mem_singleton.mp isLast] at isId
          exact absurd isId.symm same

theorem mem_pollItems {change : VlobID × Nat} :
    change ∈ (pollItems updates).values ↔
      IsChanged updates change.1 ∧ change.2 = serverVersion updates change.1 := by
  constructor
  · intro member
    obtain ⟨id, found⟩ := Dict.get?_of_mem_values member
    obtain ⟨changed, isChange⟩ := pollItems_get?.mp found
    rw [isChange]
    exact ⟨changed, rfl⟩
  · intro isChange
    apply Dict.mem_values_of_get?
    rw [pollItems_get?]
    exact ⟨isChange.1, Prod.ext rfl isChange.2⟩

/-- The versions of a vlob grow along the log. -/
def Growing (updates : List MemoryRealmVlobUpdate) : Prop :=
  ∀ n m id, n ≤ m → serverVersion (updates.take n) id ≤ serverVersion (updates.take m) id

theorem Growing.append (growing : Growing updates)
    (newer : serverVersion updates update.vlobAtom.vlobId < update.vlobAtom.version) :
    Growing (updates ++ [update]) := by
  have whole : ∀ n id, serverVersion (updates.take n) id ≤ serverVersion updates id := by
    intro n id
    have isMax := growing n (max n updates.length) id (Nat.le_max_left _ _)
    rw [List.take_of_length_le (Nat.le_max_right n updates.length)] at isMax
    exact isMax
  intro n m id below
  by_cases inside : m ≤ updates.length
  · rw [List.take_append_of_le_length inside, List.take_append_of_le_length (below.trans inside)]
    exact growing n m id below
  · have isLast : (updates ++ [update]).take m = updates ++ [update] := by
      apply List.take_of_length_le
      rw [List.length_append, List.length_singleton]
      omega
    rw [isLast]
    by_cases insideFront : n ≤ updates.length
    · rw [List.take_append_of_le_length insideFront, serverVersion_append_last]
      split
      · rename_i same
        rw [same] at newer
        exact (whole n id).trans newer.le
      · exact whole n id
    · rw [List.take_of_length_le]
      rw [List.length_append, List.length_singleton]
      omega

end Server

/-- The three steps of a refresh with nothing in between. -/
def refreshRealmCheckpoint (updates : List MemoryRealmVlobUpdate) (storage : NativeStorage) :
    NativeStorage :=
  let lastCheckpoint := storage.getRealmCheckpoint
  let (currentCheckpoint, changes) := pollChanges updates lastCheckpoint
  if lastCheckpoint ≠ currentCheckpoint then
    storage.updateRealmCheckpoint currentCheckpoint changes
  else storage

/-- A refresh that has read the stored checkpoint, with the answer of the server once it is there. -/
structure Refresh where
  lastCheckpoint : Nat
  answer : Option (Nat × List (VlobID × Nat))

structure SyncSystem where
  updates : List MemoryRealmVlobUpdate
  storage : NativeStorage
  refreshes : List Refresh

def SyncSystem.noPopulateStart (cacheMaxBlocks : Nat) : SyncSystem :=
  ⟨[], .noPopulateStart cacheMaxBlocks, []⟩

/-- A manifest that comes from the server is not ahead of it. The base version of a stored entry is
    raised, a new entry has the version that the server has at that moment. -/
def Raises (updates : List MemoryRealmVlobUpdate) (vlobs : Dict VlobID VlobRow)
    (manifest : UpdateManifestData) : Prop :=
  match vlobs.get? manifest.entryId with
  | none => manifest.baseVersion = serverVersion updates manifest.entryId
  | some row => row.baseVersion ≤ manifest.baseVersion ∧
      manifest.baseVersion ≤ serverVersion updates manifest.entryId

def RaisesAll (updates : List MemoryRealmVlobUpdate) :
    Dict VlobID VlobRow → List UpdateManifestData → Prop
  | _, [] => True
  | vlobs, manifest :: rest =>
    Raises updates vlobs manifest ∧ RaisesAll updates (dbUpdateManifest vlobs manifest) rest

inductive SyncAction where
  | upload (update : MemoryRealmVlobUpdate)
  | refreshBegins
  | refreshAnswered (front : List Refresh) (lastCheckpoint : Nat) (back : List Refresh)
  | refreshApplies (front : List Refresh) (lastCheckpoint currentCheckpoint : Nat)
      (changes : List (VlobID × Nat)) (back : List Refresh)
  | refreshFails (front : List Refresh) (refresh : Refresh) (back : List Refresh)
  | populateManifest (manifest : UpdateManifestData)
  | updateManifest (manifest : UpdateManifestData)
  | updateManifests (manifests : List UpdateManifestData)
  | updateManifestAndChunks (manifest : UpdateManifestData)
      (newChunks : List (ChunkID × RawEncryptedChunk)) (removedChunks : List ChunkID)

inductive SyncSystem.Step (s : SyncSystem) : SyncAction → SyncSystem → Prop where
  | upload {update : MemoryRealmVlobUpdate}
      (newer : serverVersion s.updates update.vlobAtom.vlobId < update.vlobAtom.version) :
      Step s (.upload update) { s with updates := s.updates ++ [update] }
  | refreshBegins :
      Step s .refreshBegins
        { s with refreshes := s.refreshes ++ [⟨s.storage.getRealmCheckpoint, none⟩] }
  | refreshAnswered {front back : List Refresh} {lastCheckpoint : Nat}
      (isWaiting : s.refreshes = front ++ ⟨lastCheckpoint, none⟩ :: back) :
      Step s (.refreshAnswered front lastCheckpoint back)
        { s with
          refreshes := front ++
            ⟨lastCheckpoint, some (pollChanges s.updates lastCheckpoint)⟩ :: back }
  | refreshApplies {front back : List Refresh} {lastCheckpoint currentCheckpoint : Nat}
      {changes : List (VlobID × Nat)}
      (isAnswered : s.refreshes =
        front ++ ⟨lastCheckpoint, some (currentCheckpoint, changes)⟩ :: back) :
      Step s (.refreshApplies front lastCheckpoint currentCheckpoint changes back)
        { s with
          refreshes := front ++ back
          storage := if lastCheckpoint ≠ currentCheckpoint then
              s.storage.updateRealmCheckpoint currentCheckpoint changes
            else s.storage }
  | refreshFails {front back : List Refresh} {refresh : Refresh}
      (isThere : s.refreshes = front ++ refresh :: back) :
      Step s (.refreshFails front refresh back) { s with refreshes := front ++ back }
  | populateManifest {manifest : UpdateManifestData}
      (isLatest : manifest.baseVersion = serverVersion s.updates manifest.entryId) :
      Step s (.populateManifest manifest)
        { s with storage := (s.storage.populateManifest manifest).2 }
  | updateManifest {manifest : UpdateManifestData}
      (raises : Raises s.updates s.storage.vlobs manifest) :
      Step s (.updateManifest manifest)
        { s with storage := s.storage.updateManifest manifest }
  | updateManifests {manifests : List UpdateManifestData}
      (raises : RaisesAll s.updates s.storage.vlobs manifests) :
      Step s (.updateManifests manifests)
        { s with storage := s.storage.updateManifests manifests }
  | updateManifestAndChunks {manifest : UpdateManifestData}
      {newChunks : List (ChunkID × RawEncryptedChunk)} {removedChunks : List ChunkID}
      (raises : Raises s.updates s.storage.vlobs manifest) :
      Step s (.updateManifestAndChunks manifest newChunks removedChunks)
        { s with
          storage := s.storage.updateManifestAndChunks manifest newChunks removedChunks }

/-- An answer is stored in time: the storage knows nothing newer yet. -/
def SyncSystem.InTime (s : SyncSystem) : SyncAction → Prop
  | .refreshApplies _ lastCheckpoint currentCheckpoint changes _ =>
    lastCheckpoint ≠ currentCheckpoint →
      s.storage.getRealmCheckpoint ≤ asU32 currentCheckpoint ∧
      ∀ id version row, (id, version) ∈ changes → s.storage.vlobs.get? id = some row →
        row.remoteVersion ≤ version
  | _ => True

section Rows
variable {updates : List MemoryRealmVlobUpdate} {vlobs vlobs' vlobs'' : Dict VlobID VlobRow}

def Ahead (vlobs : Dict VlobID VlobRow) : Prop :=
  ∀ id row, vlobs.get? id = some row → row.baseVersion ≤ row.remoteVersion

/-- A remote version that is written is not below the one it replaces. -/
def RemoteKept (vlobs vlobs' : Dict VlobID VlobRow) : Prop :=
  ∀ id row, vlobs.get? id = some row →
    ∃ row', vlobs'.get? id = some row' ∧ row.remoteVersion ≤ row'.remoteVersion

/-- The rows after manifests are stored: a row that was not there is up to date. -/
structure RowsRaised (updates : List MemoryRealmVlobUpdate) (vlobs vlobs' : Dict VlobID VlobRow) :
    Prop where
  ahead : Ahead vlobs'
  known : ∀ id row', vlobs'.get? id = some row' → serverVersion updates id ≤ row'.remoteVersion ∨
    ∃ row, vlobs.get? id = some row ∧ row.remoteVersion ≤ row'.remoteVersion
  kept : RemoteKept vlobs vlobs'

theorem RemoteKept.refl (vlobs : Dict VlobID VlobRow) : RemoteKept vlobs vlobs :=
  fun _ row found => ⟨row, found, Nat.le_refl _⟩

theorem RemoteKept.trans (first : RemoteKept vlobs vlobs') (second : RemoteKept vlobs' vlobs'') :
    RemoteKept vlobs vlobs'' := by
  intro id row found
  obtain ⟨row', found', above⟩ := first id row found
  obtain ⟨row'', found'', above'⟩ := second id row' found'
  exact ⟨row'', found'', above.trans above'⟩

theorem RowsRaised.refl (ahead : Ahead vlobs) : RowsRaised updates vlobs vlobs :=
  ⟨ahead, fun _ row found => .inr ⟨row, found, Nat.le_refl _⟩, RemoteKept.refl vlobs⟩

theorem RowsRaised.trans (first : RowsRaised updates vlobs vlobs')
    (second : RowsRaised updates vlobs' vlobs'') : RowsRaised updates vlobs vlobs'' := by
  constructor
  · exact second.ahead
  · intro id row'' found''
    rcases second.known id row'' found'' with isKnown | isOlder
    · exact .inl isKnown
    · obtain ⟨row', found', above'⟩ := isOlder
      rcases first.known id row' found' with isKnown | isOlder
      · exact .inl (isKnown.trans above')
      · obtain ⟨row, found, above⟩ := isOlder
        exact .inr ⟨row, found, above.trans above'⟩
  · exact first.kept.trans second.kept

theorem dbPopulateManifest_raised {manifest : UpdateManifestData} (ahead : Ahead vlobs)
    (isLatest : manifest.baseVersion = serverVersion updates manifest.entryId) :
    RowsRaised updates vlobs (dbPopulateManifest vlobs manifest).2 := by
  cases found : vlobs.get? manifest.entryId with
  | some row =>
    unfold dbPopulateManifest
    rw [found]
    exact RowsRaised.refl ahead
  | none =>
    have isRow : ∀ id row', (dbPopulateManifest vlobs manifest).2.get? id = some row' →
        (id = manifest.entryId ∧ row' = manifest.row) ∨ vlobs.get? id = some row' := by
      intro id row' found'
      rw [dbPopulateManifest_get?] at found'
      split at found'
      · rename_i same
        rw [same, found] at found'
        exact .inl ⟨same, (Option.some.inj found').symm⟩
      · exact .inr found'
    constructor
    · intro id row' found'
      rcases isRow id row' found' with ⟨-, isNew⟩ | isOld
      · rw [isNew]
        exact Nat.le_refl _
      · exact ahead id row' isOld
    · intro id row' found'
      rcases isRow id row' found' with ⟨same, isNew⟩ | isOld
      · left
        rw [isNew, same, ← isLatest]
        exact Nat.le_refl _
      · exact .inr ⟨row', isOld, Nat.le_refl _⟩
    · intro id row isStored
      use row
      rw [dbPopulateManifest_get?, if_neg]
      · exact ⟨isStored, Nat.le_refl _⟩
      · intro same
        rw [same, found] at isStored
        cases isStored

theorem dbUpdateManifest_raised {manifest : UpdateManifestData} (ahead : Ahead vlobs)
    (raises : Raises updates vlobs manifest) :
    RowsRaised updates vlobs (dbUpdateManifest vlobs manifest) := by
  have isRow : ∀ id row', (dbUpdateManifest vlobs manifest).get? id = some row' →
      (id = manifest.entryId ∧ row' = manifest.updated (vlobs.get? id)) ∨
        vlobs.get? id = some row' := by
    intro id row' found'
    rw [dbUpdateManifest_get?] at found'
    split at found'
    · rename_i same
      exact .inl ⟨same, (Option.some.inj found').symm⟩
    · exact .inr found'
  constructor
  · intro id row' found'
    rcases isRow id row' found' with ⟨-, isNew⟩ | isOld
    · rw [isNew]
      cases vlobs.get? id with
      | none => exact Nat.le_refl _
      | some row => exact Nat.le_max_left _ _
    · exact ahead id row' isOld
  · intro id row' found'
    rcases isRow id row' found' with ⟨same, isNew⟩ | isOld
    · rw [isNew, same]
      unfold Raises at raises
      cases found : vlobs.get? manifest.entryId with
      | none =>
        left
        rw [found] at raises
        exact raises.ge
      | some row => exact .inr ⟨row, rfl, Nat.le_max_right _ _⟩
    · exact .inr ⟨row', isOld, Nat.le_refl _⟩
  · intro id row found
    rw [dbUpdateManifest_get?]
    split
    · refine ⟨_, rfl, ?_⟩
      rw [found]
      exact Nat.le_max_right _ _
    · exact ⟨row, found, Nat.le_refl _⟩

theorem updateManifests_raised {manifests : List UpdateManifestData} (ahead : Ahead vlobs)
    (raises : RaisesAll updates vlobs manifests) :
    RowsRaised updates vlobs (manifests.foldl dbUpdateManifest vlobs) := by
  induction manifests generalizing vlobs with
  | nil => exact RowsRaised.refl ahead
  | cons manifest rest ih =>
    have first := dbUpdateManifest_raised ahead raises.1
    exact first.trans (ih first.ahead raises.2)

end Rows

/-- What holds while the answers are stored in time. The last field says what an answer that is on
    its way contains: the changes between two checkpoints of the log. -/
structure SyncInvariant (s : SyncSystem) : Prop where
  growing : Growing s.updates
  ahead : Ahead s.storage.vlobs
  reached : s.storage.getRealmCheckpoint ≤ s.updates.length
  known : ∀ id row, s.storage.vlobs.get? id = some row →
    serverVersion (s.updates.take s.storage.getRealmCheckpoint) id ≤ row.remoteVersion
  read : ∀ refresh ∈ s.refreshes, refresh.lastCheckpoint ≤ s.storage.getRealmCheckpoint
  answered : ∀ refresh ∈ s.refreshes, ∀ currentCheckpoint changes,
    refresh.answer = some (currentCheckpoint, changes) →
      currentCheckpoint ≤ s.updates.length ∧
      changes = (pollChanges (s.updates.take currentCheckpoint) refresh.lastCheckpoint).2

/-- The checkpoint and the remote versions do not go back. -/
def StorageKept (s s' : SyncSystem) : Prop :=
  s.storage.getRealmCheckpoint ≤ s'.storage.getRealmCheckpoint ∧
    RemoteKept s.storage.vlobs s'.storage.vlobs

theorem StorageKept.refl (s : SyncSystem) : StorageKept s s :=
  ⟨Nat.le_refl _, RemoteKept.refl _⟩

theorem StorageKept.trans {s s' s'' : SyncSystem} (first : StorageKept s s')
    (second : StorageKept s' s'') : StorageKept s s'' :=
  ⟨first.1.trans second.1, first.2.trans second.2⟩

namespace SyncInvariant
variable {s : SyncSystem}

theorem upload {update : MemoryRealmVlobUpdate} (inv : SyncInvariant s)
    (newer : serverVersion s.updates update.vlobAtom.vlobId < update.vlobAtom.version) :
    SyncInvariant { s with updates := s.updates ++ [update] } := by
  constructor
  · exact inv.growing.append newer
  · exact inv.ahead
  · apply inv.reached.trans
    rw [List.length_append]
    exact Nat.le_add_right _ _
  · change ∀ id row, s.storage.vlobs.get? id = some row →
      serverVersion ((s.updates ++ [update]).take s.storage.getRealmCheckpoint) id ≤
        row.remoteVersion
    rw [List.take_append_of_le_length inv.reached]
    exact inv.known
  · exact inv.read
  · intro refresh member currentCheckpoint changes isAnswer
    obtain ⟨below, isChanges⟩ :=
      inv.answered refresh member currentCheckpoint changes isAnswer
    change _ ≤ (s.updates ++ [update]).length ∧
      changes = (pollChanges ((s.updates ++ [update]).take currentCheckpoint) _).2
    rw [List.take_append_of_le_length below, List.length_append]
    exact ⟨below.trans (Nat.le_add_right _ _), isChanges⟩

theorem raised {storage : NativeStorage} (inv : SyncInvariant s)
    (sameCheckpoint : storage.realmCheckpoint = s.storage.realmCheckpoint)
    (rows : RowsRaised s.updates s.storage.vlobs storage.vlobs) :
    SyncInvariant { s with storage := storage } ∧
      StorageKept s { s with storage := storage } := by
  have same : storage.getRealmCheckpoint = s.storage.getRealmCheckpoint := by
    unfold NativeStorage.getRealmCheckpoint
    rw [sameCheckpoint]
  constructor
  · constructor
    · exact inv.growing
    · exact rows.ahead
    · change storage.getRealmCheckpoint ≤ s.updates.length
      rw [same]
      exact inv.reached
    · change ∀ id row, storage.vlobs.get? id = some row →
        serverVersion (s.updates.take storage.getRealmCheckpoint) id ≤ row.remoteVersion
      rw [same]
      intro id row found
      rcases rows.known id row found with isKnown | isOlder
      · have isMax := inv.growing s.storage.getRealmCheckpoint s.updates.length id
          inv.reached
        rw [List.take_length] at isMax
        exact isMax.trans isKnown
      · obtain ⟨old, isOld, above⟩ := isOlder
        exact (inv.known id old isOld).trans above
    · change ∀ refresh ∈ s.refreshes, refresh.lastCheckpoint ≤ storage.getRealmCheckpoint
      rw [same]
      exact inv.read
    · exact inv.answered
  · exact ⟨same.ge, rows.kept⟩

theorem refreshed {refreshes : List Refresh} (inv : SyncInvariant s)
    (read : ∀ refresh ∈ refreshes, refresh.lastCheckpoint ≤ s.storage.getRealmCheckpoint)
    (answered : ∀ refresh ∈ refreshes, ∀ currentCheckpoint changes,
      refresh.answer = some (currentCheckpoint, changes) →
        currentCheckpoint ≤ s.updates.length ∧
        changes = (pollChanges (s.updates.take currentCheckpoint) refresh.lastCheckpoint).2) :
    SyncInvariant { s with refreshes := refreshes } :=
  ⟨inv.growing, inv.ahead, inv.reached, inv.known, read, answered⟩

theorem refreshBegins (inv : SyncInvariant s) :
    SyncInvariant
      { s with refreshes := s.refreshes ++ [⟨s.storage.getRealmCheckpoint, none⟩] } := by
  apply inv.refreshed
  · intro refresh member
    rcases List.mem_append.mp member with isOld | isNew
    · exact inv.read refresh isOld
    · rw [List.mem_singleton.mp isNew]
  · intro refresh member currentCheckpoint changes isAnswer
    rcases List.mem_append.mp member with isOld | isNew
    · exact inv.answered refresh isOld currentCheckpoint changes isAnswer
    · rw [List.mem_singleton.mp isNew] at isAnswer
      cases isAnswer

theorem refreshAnswered {front back : List Refresh} {lastCheckpoint : Nat}
    (inv : SyncInvariant s)
    (isWaiting : s.refreshes = front ++ ⟨lastCheckpoint, none⟩ :: back) :
    SyncInvariant
      { s with
        refreshes := front ++
          ⟨lastCheckpoint, some (pollChanges s.updates lastCheckpoint)⟩ :: back } := by
  have others : ∀ refresh ∈ front ++ back, refresh ∈ s.refreshes := by
    intro refresh member
    rw [isWaiting]
    rcases List.mem_append.mp member with isFront | isBack
    · exact List.mem_append_left _ isFront
    · exact List.mem_append_right _ (List.mem_cons_of_mem _ isBack)
  apply inv.refreshed
  · intro refresh member
    rw [List.mem_append, List.mem_cons, or_left_comm, ← List.mem_append] at member
    rcases member with isThis | isOther
    · rw [isThis]
      apply inv.read ⟨lastCheckpoint, none⟩
      rw [isWaiting]
      exact List.mem_append_right _ List.mem_cons_self
    · exact inv.read refresh (others refresh isOther)
  · intro refresh member currentCheckpoint changes isAnswer
    rw [List.mem_append, List.mem_cons, or_left_comm, ← List.mem_append] at member
    rcases member with isThis | isOther
    · rw [isThis] at isAnswer ⊢
      cases isAnswer
      rw [List.take_length]
      exact ⟨Nat.le_refl _, rfl⟩
    · exact inv.answered refresh (others refresh isOther) currentCheckpoint changes isAnswer

theorem refreshRemoved {front back : List Refresh} {refresh : Refresh}
    (inv : SyncInvariant s) (isThere : s.refreshes = front ++ refresh :: back) :
    SyncInvariant { s with refreshes := front ++ back } := by
  have others : ∀ other ∈ front ++ back, other ∈ s.refreshes := by
    intro other member
    rw [isThere]
    rcases List.mem_append.mp member with isFront | isBack
    · exact List.mem_append_left _ isFront
    · exact List.mem_append_right _ (List.mem_cons_of_mem _ isBack)
  apply inv.refreshed
  · intro other member
    exact inv.read other (others other member)
  · intro other member
    exact inv.answered other (others other member)

end SyncInvariant

/-- A row that knows the version at a checkpoint knows the version at the end of the log once the
    changes since that checkpoint are stored. -/
theorem changedRow_known {log : List MemoryRealmVlobUpdate} {checkpoint : Nat} {id : VlobID}
    {row : VlobRow} (known : serverVersion (log.take checkpoint) id ≤ row.remoteVersion) :
    serverVersion log id ≤
      (changedRow id (pollChanges log checkpoint).2 row).remoteVersion := by
  have split := List.take_append_drop checkpoint log
  rcases changedRow_remoteVersion id (pollChanges log checkpoint).2 row with
    ⟨version, member, isVersion⟩ | ⟨absent, same⟩
  · obtain ⟨changed, isLast⟩ := mem_pollItems.mp member
    rw [isVersion, ← split, serverVersion_append_changed changed]
    exact isLast.ge
  · have unchanged : ¬ IsChanged (log.drop checkpoint) id := by
      intro changed
      exact absent (serverVersion (log.drop checkpoint) id) (mem_pollItems.mpr ⟨changed, rfl⟩)
    rw [same, ← split, serverVersion_append_unchanged unchanged]
    exact known

namespace SyncInvariant
variable {s : SyncSystem}

theorem refreshApplies {front back : List Refresh} {lastCheckpoint currentCheckpoint : Nat}
    {changes : List (VlobID × Nat)} (inv : SyncInvariant s)
    (isAnswered : s.refreshes =
      front ++ ⟨lastCheckpoint, some (currentCheckpoint, changes)⟩ :: back)
    (notBack : s.storage.getRealmCheckpoint ≤ asU32 currentCheckpoint)
    (notBelow : ∀ id version row, (id, version) ∈ changes → s.storage.vlobs.get? id = some row →
      row.remoteVersion ≤ version) :
    SyncInvariant
      { s with
        refreshes := front ++ back
        storage := s.storage.updateRealmCheckpoint currentCheckpoint changes } ∧
    StorageKept s
      { s with
        refreshes := front ++ back
        storage := s.storage.updateRealmCheckpoint currentCheckpoint changes } := by
  have member : (⟨lastCheckpoint, some (currentCheckpoint, changes)⟩ : Refresh) ∈ s.refreshes := by
    rw [isAnswered]
    exact List.mem_append_right _ List.mem_cons_self
  have readBefore := inv.read _ member
  obtain ⟨below, isChanges⟩ := inv.answered _ member currentCheckpoint changes rfl
  have notAfter : asU32 currentCheckpoint ≤ currentCheckpoint := Nat.mod_le _ _
  have rows : ∀ id, (s.storage.updateRealmCheckpoint currentCheckpoint changes).vlobs.get? id =
      (s.storage.vlobs.get? id).map (changedRow id changes) :=
    changedVlobs_get? s.storage.vlobs changes
  have kept : ∀ id row, s.storage.vlobs.get? id = some row →
      row.remoteVersion ≤ (changedRow id changes row).remoteVersion := by
    intro id row found
    rcases changedRow_remoteVersion id changes row with ⟨version, isChange, isVersion⟩ | ⟨-, same⟩
    · rw [isVersion]
      exact notBelow id version row isChange found
    · exact same.ge
  constructor
  · constructor
    · exact inv.growing
    · intro id row' found'
      rw [rows] at found'
      obtain ⟨row, found, isRow⟩ := Option.map_eq_some_iff.mp found'
      rw [← isRow, changedRow_baseVersion]
      exact (inv.ahead id row found).trans (kept id row found)
    · exact notAfter.trans below
    · intro id row' found'
      rw [rows] at found'
      obtain ⟨row, found, isRow⟩ := Option.map_eq_some_iff.mp found'
      change serverVersion (s.updates.take (asU32 currentCheckpoint)) id ≤ row'.remoteVersion
      apply (inv.growing _ _ id notAfter).trans
      rw [← isRow, isChanges]
      apply changedRow_known
      rw [List.take_take]
      apply le_trans _ (inv.known id row found)
      exact inv.growing _ _ id ((Nat.min_le_left _ _).trans readBefore)
    · intro refresh isThere
      apply le_trans _ notBack
      exact (inv.refreshRemoved isAnswered).read refresh isThere
    · exact (inv.refreshRemoved isAnswered).answered
  · constructor
    · exact notBack
    · intro id row found
      use changedRow id changes row
      rw [rows, found]
      exact ⟨rfl, kept id row found⟩

theorem step {s' : SyncSystem} {action : SyncAction} (inv : SyncInvariant s)
    (inTime : s.InTime action) (taken : s.Step action s') :
    SyncInvariant s' ∧ StorageKept s s' := by
  cases taken with
  | upload newer => exact ⟨inv.upload newer, StorageKept.refl s⟩
  | refreshBegins => exact ⟨inv.refreshBegins, StorageKept.refl s⟩
  | refreshAnswered isWaiting => exact ⟨inv.refreshAnswered isWaiting, StorageKept.refl s⟩
  | refreshFails isThere => exact ⟨inv.refreshRemoved isThere, StorageKept.refl s⟩
  | refreshApplies isAnswered =>
    split
    · rename_i differs
      obtain ⟨notBack, notBelow⟩ := inTime differs
      exact inv.refreshApplies isAnswered notBack notBelow
    · exact ⟨inv.refreshRemoved isAnswered, StorageKept.refl s⟩
  | populateManifest isLatest =>
    exact inv.raised rfl (dbPopulateManifest_raised inv.ahead isLatest)
  | updateManifest raises =>
    exact inv.raised rfl (dbUpdateManifest_raised inv.ahead raises)
  | updateManifests raises =>
    exact inv.raised rfl (updateManifests_raised inv.ahead raises)
  | updateManifestAndChunks raises =>
    exact inv.raised rfl (dbUpdateManifest_raised inv.ahead raises)

theorem later {later : SyncSystem} (inv : SyncInvariant s)
    (run : Run SyncSystem.Step SyncSystem.InTime s later) :
    SyncInvariant later ∧ StorageKept s later := by
  induction run with
  | start => exact ⟨inv, StorageKept.refl s⟩
  | step _ inTime taken ih =>
    obtain ⟨before, keptBefore⟩ := ih
    obtain ⟨after, kept⟩ := before.step inTime taken
    exact ⟨after, keptBefore.trans kept⟩

end SyncInvariant

theorem mem_getInboundNeedSync {storage : NativeStorage} {limit : Nat} {id : VlobID}
    (notReached : (storage.getInboundNeedSync limit).length < limit) :
    id ∈ storage.getInboundNeedSync limit ↔
      ∃ row, storage.vlobs.get? id = some row ∧ row.baseVersion ≠ row.remoteVersion := by
  unfold NativeStorage.getInboundNeedSync at notReached ⊢
  rw [List.length_take] at notReached
  rw [List.take_of_length_le (by omega)]
  constructor
  · intro member
    obtain ⟨⟨_, row⟩, isItem, rfl⟩ := List.mem_map.mp member
    obtain ⟨isStored, differs⟩ := List.mem_filter.mp isItem
    exact ⟨row, Dict.get?_eq_some_iff.mpr isStored, of_decide_eq_true differs⟩
  · intro found
    obtain ⟨row, found, differs⟩ := found
    apply List.mem_map.mpr
    use (id, row)
    rw [List.mem_filter]
    exact ⟨⟨Dict.get?_eq_some_iff.mp found, decide_eq_true differs⟩, rfl⟩

/-- The storage as it should be, with what is kept as long as the actions are admitted. -/
structure RemoteVersionsSound (admits : SyncSystem → SyncAction → Prop) (s : SyncSystem) :
    Prop where
  ahead : ∀ id row, s.storage.vlobs.get? id = some row → row.baseVersion ≤ row.remoteVersion
  kept : ∀ later, Run SyncSystem.Step admits s later →
    s.storage.getRealmCheckpoint ≤ later.storage.getRealmCheckpoint ∧
    ∀ id row, s.storage.vlobs.get? id = some row → ∃ row',
      later.storage.vlobs.get? id = some row' ∧ row.remoteVersion ≤ row'.remoteVersion
  listed : ∀ limit, (s.storage.getInboundNeedSync limit).length < limit →
    ∀ id row, s.storage.vlobs.get? id = some row →
      (id ∈ s.storage.getInboundNeedSync limit ↔ row.remoteVersion > row.baseVersion)
  refreshed : ∀ limit,
    ((refreshRealmCheckpoint s.updates s.storage).getInboundNeedSync limit).length < limit →
    ∀ id row, (refreshRealmCheckpoint s.updates s.storage).vlobs.get? id = some row →
      row.baseVersion < serverVersion s.updates id →
        id ∈ (refreshRealmCheckpoint s.updates s.storage).getInboundNeedSync limit

/-- After a refresh that nothing disturbs, the versions of the server are known. -/
theorem SyncInvariant.refreshed_known {s : SyncSystem} (inv : SyncInvariant s) {id : VlobID}
    {row : VlobRow}
    (found : (refreshRealmCheckpoint s.updates s.storage).vlobs.get? id = some row) :
    serverVersion s.updates id ≤ row.remoteVersion := by
  unfold refreshRealmCheckpoint at found
  dsimp only at found
  split at found
  · rw [show (s.storage.updateRealmCheckpoint _ _).vlobs.get? id = _ from
      changedVlobs_get? s.storage.vlobs _ id] at found
    obtain ⟨old, isOld, isRow⟩ := Option.map_eq_some_iff.mp found
    rw [← isRow]
    exact changedRow_known (inv.known id old isOld)
  · rename_i same
    have known := inv.known id row found
    rw [not_not.mp same] at known
    change serverVersion (s.updates.take s.updates.length) id ≤ row.remoteVersion at known
    rw [List.take_length] at known
    exact known

theorem SyncInvariant.start (cacheMaxBlocks : Nat) :
    SyncInvariant (SyncSystem.noPopulateStart cacheMaxBlocks) := by
  constructor
  · intro n m id _
    rw [show (SyncSystem.noPopulateStart cacheMaxBlocks).updates = [] from rfl, List.take_nil,
      List.take_nil]
  · intro id row found
    cases found
  · exact Nat.le_refl 0
  · intro id row found
    cases found
  · intro refresh member
    cases member
  · intro refresh member
    cases member

/-- In the runs where every answer is stored in time. -/
theorem remote_versions_sound {cacheMaxBlocks : Nat} {s : SyncSystem}
    (run : Run SyncSystem.Step SyncSystem.InTime (.noPopulateStart cacheMaxBlocks) s) :
    RemoteVersionsSound SyncSystem.InTime s := by
  have inv := ((SyncInvariant.start cacheMaxBlocks).later run).1
  constructor
  · exact inv.ahead
  · intro later goesOn
    exact (inv.later goesOn).2
  · intro limit notReached id row found
    rw [mem_getInboundNeedSync notReached]
    have above := inv.ahead id row found
    constructor
    · intro isListed
      obtain ⟨row', found', differs⟩ := isListed
      rw [found] at found'
      cases found'
      omega
    · intro isAbove
      exact ⟨row, found, by omega⟩
  · intro limit notReached id row found isBehind
    rw [mem_getInboundNeedSync notReached]
    have known := inv.refreshed_known found
    exact ⟨row, found, by omega⟩

section Overlap

def uploadOf (uuid version : Nat) : MemoryRealmVlobUpdate :=
  ⟨0, ⟨⟨0⟩, ⟨uuid⟩, 1, version, [], ⟨1⟩, 0⟩⟩

def manifestOf (uuid version : Nat) : UpdateManifestData := ⟨⟨uuid⟩, [], false, version⟩

/-- A manifest is stored, the server has a second version of it, and a refresh finds it out. -/
theorem remote_versions_sound_of_refresh :
    ∃ s, RemoteVersionsSound SyncSystem.InTime s ∧ s.storage.getInboundNeedSync 10 = [⟨1⟩] := by
  have first : Run SyncSystem.Step SyncSystem.InTime (.noPopulateStart 10) _ :=
    .step (t := .upload (uploadOf 1 1)) .start trivial (.upload (by decide))
  have stored : Run SyncSystem.Step SyncSystem.InTime (.noPopulateStart 10) _ :=
    .step (t := .populateManifest (manifestOf 1 1)) first trivial (.populateManifest rfl)
  have second : Run SyncSystem.Step SyncSystem.InTime (.noPopulateStart 10) _ :=
    .step (t := .upload (uploadOf 1 2)) stored trivial (.upload (by decide))
  have begun : Run SyncSystem.Step SyncSystem.InTime (.noPopulateStart 10) _ :=
    .step (t := .refreshBegins) second trivial .refreshBegins
  have answered : Run SyncSystem.Step SyncSystem.InTime (.noPopulateStart 10) _ :=
    .step (t := .refreshAnswered [] 0 []) begun trivial (.refreshAnswered rfl)
  have applied : Run SyncSystem.Step SyncSystem.InTime (.noPopulateStart 10) _ :=
    .step (t := .refreshApplies [] 0 2 [(⟨1⟩, 2)] []) answered
      (fun _ => ⟨by decide, fun _ _ _ isChange found => by
        cases List.mem_singleton.mp isChange
        cases found
        decide⟩)
      (.refreshApplies rfl)
  exact ⟨_, remote_versions_sound applied, rfl⟩

/-- The answer of a refresh crosses the acknowledgment of an upload. -/
theorem late_answer_goes_back :
    ¬ ∀ cacheMaxBlocks s,
      Run SyncSystem.Step (fun _ _ => True) (.noPopulateStart cacheMaxBlocks) s →
        RemoteVersionsSound (fun _ _ => True) s := by
  intro claim
  have first : Run SyncSystem.Step (fun _ _ => True) (.noPopulateStart 10) _ :=
    .step (t := .upload (uploadOf 1 1)) .start trivial (.upload (by decide))
  have stored : Run SyncSystem.Step (fun _ _ => True) (.noPopulateStart 10) _ :=
    .step (t := .populateManifest (manifestOf 1 1)) first trivial (.populateManifest rfl)
  have begun : Run SyncSystem.Step (fun _ _ => True) (.noPopulateStart 10) _ :=
    .step (t := .refreshBegins) stored trivial .refreshBegins
  have answered : Run SyncSystem.Step (fun _ _ => True) (.noPopulateStart 10) _ :=
    .step (t := .refreshAnswered [] 0 []) begun trivial (.refreshAnswered rfl)
  have uploaded : Run SyncSystem.Step (fun _ _ => True) (.noPopulateStart 10) _ :=
    .step (t := .upload (uploadOf 1 2)) answered trivial (.upload (by decide))
  have acknowledged : Run SyncSystem.Step (fun _ _ => True) (.noPopulateStart 10) _ :=
    .step (t := .updateManifest (manifestOf 1 2)) uploaded trivial
      (.updateManifest ⟨by decide, by decide⟩)
  have applied : Run SyncSystem.Step (fun _ _ => True) (.noPopulateStart 10) _ :=
    .step (t := .refreshApplies [] 0 1 [(⟨1⟩, 1)] []) acknowledged trivial (.refreshApplies rfl)
  have ahead := (claim 10 _ applied).ahead ⟨1⟩ ⟨2, 1, false, []⟩ rfl
  exact absurd ahead (by decide)

end Overlap

end ParsecCloud.PlatformStorage
